import ScriptHost.Proofs.Http.ChunkedFraming
import ScriptHost.Proofs.Http.ResponseHead

/-! What a reader of the library's own wire format makes of a written response. The writer sets the
length itself, but it passes on a transfer coding that it does not apply. -/
namespace ScriptHost.Http

open Text (equalIgnoringCase)

/-- Read a response back: drop the status line, take the header lines into a map, and let it frame
the body the way it frames the body of a request. -/
def readResponse (limits : Limits) (source : Source) : Except HostError (Bytes × Source) := do
  let line ← source.line limits.maxHeaderBytes .closedBeforeRequestLine
  let (headers, afterHead) ← readHeaders SortedMap.empty line.budget line.rest
  readBody headers limits afterHead

namespace Response

/-- The header lines of a response that is written with its body. -/
def fields (response : Response) : List Field :=
  (response.headerLines false).map fun (name, value) => ⟨name, " " ++ value⟩

def lines (response : Response) : List String :=
  [response.statusLine] ++ response.fields.map Field.line ++ [""]

end Response

private theorem line_spaced (name value : String) :
    Field.line ⟨name, " " ++ value⟩ = headerLine (name, value) := by
  rw [Field.line, headerLine, String.append_assoc, String.append_assoc]
  rfl

private theorem headLines_append (response : Response) :
    response.headLines false ++ [""] = response.lines := by
  rw [Response.headLines, Response.lines, Response.fields, List.map_map]
  exact congrArg (fun lines => response.statusLine :: lines ++ [""])
    (List.map_congr_left fun header _ => (line_spaced header.1 header.2).symm)

theorem equalIgnoringCase_congr {name first second : String}
    (same : equalIgnoringCase first second) :
    equalIgnoringCase name first = equalIgnoringCase name second := by
  rw [equalIgnoringCase, equalIgnoringCase, beq_iff_eq.mp same]

/-- With its body, a response is written without the caller's length and connection headers. -/
theorem keepsHeader_iff {status : Nat} {name : String} :
    keepsHeader status false name = true ↔
      equalIgnoringCase name "connection" = false ∧
        equalIgnoringCase name "content-length" = false := by
  rw [keepsHeader]
  cases equalIgnoringCase name "connection" <;>
    cases equalIgnoringCase name "content-length" <;> simp

theorem headerLines_false {response : Response} (carries : forbidsBody response.status = false) :
    response.headerLines false = response.keptHeaders false ++
      [("Content-Length", toString response.body.length), ("Connection", "close")] := by
  have unsized : (response.keptHeaders false).any
      (fun entry => equalIgnoringCase entry.1 "content-length") = false := by
    rw [List.any_eq_false]
    intro entry kept
    have keeps := keepsHeader_iff.mp (List.mem_filter.mp kept).2
    simp [keeps.2]
  rw [Response.headerLines]
  simp [unsized, carries]

private def keptFields (response : Response) : List Field :=
  (response.keptHeaders false).map fun (name, value) => ⟨name, " " ++ value⟩

private theorem fields_eq {response : Response} (carries : forbidsBody response.status = false) :
    response.fields = keptFields response ++
      [⟨"Content-Length", " " ++ toString response.body.length⟩, ⟨"Connection", " close"⟩] := by
  rw [Response.fields, headerLines_false carries, List.map_append]
  rfl

private theorem exists_entry_of_mem_keptFields {response : Response} {field : Field}
    (member : field ∈ keptFields response) :
    ∃ entry ∈ response.headers.entries, keepsHeader response.status false entry.1 = true ∧
      field = ⟨entry.1, " " ++ entry.2⟩ := by
  obtain ⟨entry, kept, rfl⟩ := List.mem_map.mp member
  obtain ⟨present, keeps⟩ := List.mem_filter.mp kept
  exact ⟨entry, present, keeps, rfl⟩

theorem trim_toString (number : Nat) : Text.trim (toString number) = toString number := by
  have solid : ∀ char ∈ (toString number).toList, Text.isBlank char = false := by
    intro char member
    have code := (Number.numeral_toString number).code_of_mem member
    simp only [Text.isBlank, Bool.or_eq_false_iff, Bool.and_eq_false_iff, decide_eq_false_iff_not,
      beq_eq_false_iff_ne]
    omega
  rw [Text.trim, Text.trimChars_of_solid solid, String.ofList_toList]

/-- The one length among the header lines is that of the body. -/
theorem valuesOf_contentLength {response : Response}
    (carries : forbidsBody response.status = false) :
    valuesOf "Content-Length" response.fields = [toString response.body.length] := by
  have none : valuesOf "Content-Length" (keptFields response) = [] := by
    rw [valuesOf_eq_nil_iff]
    intro field member named
    obtain ⟨entry, _, keeps, rfl⟩ := exists_entry_of_mem_keptFields member
    have same : equalIgnoringCase entry.1 "content-length" = true :=
      (equalIgnoringCase_congr (by decide)).trans named
    rw [(keepsHeader_iff.mp keeps).2] at same
    contradiction
  have sized (value : String) : Field.IsNamed "Content-Length" ⟨"Content-Length", value⟩ :=
    show equalIgnoringCase "Content-Length" "Content-Length" = true by decide
  have other (value : String) : ¬Field.IsNamed "Content-Length" ⟨"Connection", value⟩ :=
    show ¬equalIgnoringCase "Connection" "Content-Length" = true by decide
  rw [fields_eq carries, valuesOf_append, none, valuesOf_cons_of_named (sized _),
    valuesOf_cons_of_not_named (other _), Text.trim_space_append, trim_toString]
  rfl

/-- A transfer coding is written exactly if the caller gives one. -/
theorem valuesOf_transferEncoding {response : Response}
    (carries : forbidsBody response.status = false) :
    valuesOf "Transfer-Encoding" response.fields = [] ↔
      ∀ entry ∈ response.headers.entries, ¬equalIgnoringCase entry.1 "Transfer-Encoding" := by
  rw [valuesOf_eq_nil_iff, fields_eq carries]
  constructor
  · intro absent entry present named
    have keeps : keepsHeader response.status false entry.1 = true := by
      have small := beq_iff_eq.mp named
      rw [keepsHeader_iff, equalIgnoringCase, equalIgnoringCase, small]
      decide
    refine absent ⟨entry.1, " " ++ entry.2⟩ (List.mem_append_left _ ?_) named
    exact List.mem_map.mpr ⟨entry, List.mem_filter.mpr ⟨present, keeps⟩, rfl⟩
  · intro absent field member named
    rcases List.mem_append.mp member with kept | added
    · obtain ⟨entry, present, _, rfl⟩ := exists_entry_of_mem_keptFields kept
      exact absent entry present named
    · have length : ¬equalIgnoringCase "Content-Length" "Transfer-Encoding" = true := by decide
      have connection : ¬equalIgnoringCase "Connection" "Transfer-Encoding" = true := by decide
      simp only [List.mem_cons, List.not_mem_nil, or_false] at added
      rcases added with rfl | rfl
      · exact length named
      · exact connection named

/-- The header lines of validated headers keep to the grammar. -/
theorem fields_writable {response : Response} (valid : response.headers.validate = .ok ()) :
    ∀ field ∈ response.fields, isToken field.name ∧ IsUnbroken field.line := by
  intro field member
  obtain ⟨header, written, rfl⟩ := List.mem_map.mp member
  obtain ⟨token, unbroken⟩ := writable_of_mem_headerLines valid written
  refine ⟨token, ?_⟩
  rw [line_spaced]
  exact (solid_headerLine token unbroken).2

/-- Reading a response back comes down to framing its body. -/
theorem readResponse_toBytes {response : Response} {limits : Limits}
    (valid : response.headers.validate = .ok ())
    (carries : forbidsBody response.status = false)
    (headFits : (Text.toBytes (response.head false)).length ≤ limits.maxHeaderBytes) :
    readResponse limits ⟨response.toBytes false, .closed⟩ =
      readBody (Headers.ofFields response.fields) limits ⟨response.body, .closed⟩ := by
  have writable := fields_writable valid
  rw [toBytes_head, headLines_append] at headFits
  have single : ∀ text ∈ response.fields.map Field.line ++ [""], 10 ∉ Text.toBytes text := by
    intro text member
    rcases List.mem_append.mp member with inFields | last
    · obtain ⟨field, present, rfl⟩ := List.mem_map.mp inFields
      exact (writable field present).2.not_mem_toBytes.2
    · rw [List.mem_singleton.mp last]
      decide
  have first : LineBytes response.statusLine (crlf [response.statusLine]) := by
    have line := LineBytes.returned (solid_statusLine response).2.not_mem_toBytes.2
    simpa [crlf] using line
  have split : crlf response.lines =
      crlf [response.statusLine] ++ crlf (response.fields.map Field.line ++ [""]) := by
    rw [Response.lines, List.append_assoc, crlf, List.flatMap_append]
    rfl
  rw [split, List.length_append] at headFits
  obtain ⟨left, enough⟩ := Nat.exists_eq_add_of_le' headFits
  have source : (⟨response.toBytes false, .closed⟩ : Source) =
      ((Source.mk response.body .closed).behind
        (crlf (response.fields.map Field.line ++ [""]))).behind (crlf [response.statusLine]) := by
    rw [← Source.behind_append, ← split, Response.toBytes, toBytes_head, headLines_append]
    simp [carries, Source.behind]
  have budget : limits.maxHeaderBytes =
      left + (crlf (response.fields.map Field.line ++ [""])).length +
        (crlf [response.statusLine]).length := by omega
  have headers : readHeaders SortedMap.empty
      (left + (crlf (response.fields.map Field.line ++ [""])).length)
      ((Source.mk response.body .closed).behind (crlf (response.fields.map Field.line ++ [""]))) =
      .ok (Headers.ofFields response.fields, ⟨response.body, .closed⟩) :=
    readHeaders_eq_ok_iff.mpr ⟨response.fields, _, fun field member => (writable field member).1,
      lines_crlf single, Nat.le_add_left _ _, rfl, rfl⟩
  rw [readResponse, source, budget, Source.line_behind first]
  simp only [bind, Except.bind, headers]

theorem SizeLine.length_pos (line : SizeLine size bytes) : 0 < bytes.length := by
  obtain ⟨_, line, _⟩ := line
  exact line.length_pos

theorem Chunks.length_le (chunks : Chunks blocks bytes) : blocks.flatten.length ≤ bytes.length := by
  induction chunks with
  | nil => exact Nat.le_refl 0
  | cons _ _ _ ih =>
    simp only [List.flatten_cons, List.length_append]
    omega

/-- Chunk by chunk, a body always takes more bytes than it has. -/
theorem ChunkedBody.length_lt (chunked : ChunkedBody limits body bytes) :
    body.length < bytes.length := by
  obtain ⟨chunks, last, _⟩ := chunked
  have shorter := chunks.length_le
  obtain ⟨zero, _, _, _⟩ := last
  have positive := zero.length_pos
  simp only [List.length_append]
  omega

/-- A transfer coding among the headers keeps the body from being recovered, whatever its value. -/
theorem readBody_ne_of_coded {fields : List Field} {limits : Limits} {body : Bytes}
    (coded : valuesOf "Transfer-Encoding" fields ≠ []) :
    readBody (Headers.ofFields fields) limits ⟨body, .closed⟩ ≠ .ok (body, ⟨[], .closed⟩) := by
  intro recovered
  cases found : joined (valuesOf "Transfer-Encoding" fields) with
  | none => exact coded (joined_eq_none_iff.mp found)
  | some value =>
    rw [readBody_of_coding found (Text.isBehind_takeWhile ',' value.toList)] at recovered
    split at recovered
    · obtain ⟨bytes, chunked, same⟩ := chunks_eq_ok_iff_chunkedBody.mp recovered
      have equal : body = bytes := by simpa [Source.behind] using congrArg Source.bytes same
      have longer := chunked.length_lt
      rw [equal] at longer
      exact Nat.lt_irrefl _ longer
    · cases recovered

/-- A response with accepted headers that carries a body is read back as exactly this body, to the
last byte, if and only if its headers name no transfer coding. The check lets that header pass, and
the writer sends it in front of a body that is not coded. -/
theorem readResponse_eq_body_iff {response : Response} {limits : Limits}
    (valid : response.headers.validate = .ok ())
    (carries : forbidsBody response.status = false)
    (small : response.body.length < UInt64.size)
    (headFits : (Text.toBytes (response.head false)).length ≤ limits.maxHeaderBytes)
    (bodyFits : response.body.length ≤ limits.maxBodyBytes) :
    readResponse limits ⟨response.toBytes false, .closed⟩ =
        .ok (response.body, ⟨[], .closed⟩) ↔
      ∀ entry ∈ response.headers.entries, ¬equalIgnoringCase entry.1 "Transfer-Encoding" := by
  rw [readResponse_toBytes valid carries headFits, ← valuesOf_transferEncoding carries]
  constructor
  · intro recovered
    exact by_contra fun coded => readBody_ne_of_coded coded recovered
  · intro plain
    have declared : DeclaresLength response.fields response.body.length :=
      .single (valuesOf_contentLength carries) (Number.numeral_toString _) small
    exact (readBody_lengthFramed_iff plain).mpr ⟨declared, bodyFits, by simp [Source.behind]⟩

theorem readResponse_typed_eq_body :
    let response : Response :=
      ⟨.http11, 200, SortedMap.empty.insert "Content-Type" "text/plain", Text.toBytes "pong"⟩
    readResponse {} ⟨response.toBytes false, .closed⟩ = .ok (response.body, ⟨[], .closed⟩) := by
  intro response
  have valid : response.headers.validate = .ok () := by decide
  exact (readResponse_eq_body_iff valid (by decide) (by decide) (by decide) (by decide)).mpr
    (by decide)

theorem readResponse_coded_ne_body :
    let response : Response :=
      ⟨.http11, 200, SortedMap.empty.insert "Transfer-Encoding" "chunked", Text.toBytes "pong"⟩
    response.headers.validate = .ok () ∧ forbidsBody response.status = false ∧
      readResponse {} ⟨response.toBytes false, .closed⟩ ≠ .ok (response.body, ⟨[], .closed⟩) := by
  intro response
  have valid : response.headers.validate = .ok () := by decide
  have carries : forbidsBody response.status = false := by decide
  refine ⟨valid, carries, ?_⟩
  rw [readResponse_toBytes valid carries (by decide)]
  exact readBody_ne_of_coded (by decide)

end ScriptHost.Http
