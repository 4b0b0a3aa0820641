import ScriptHost.Http.Response
import ScriptHost.Proofs.Http.HeaderFields
import ScriptHost.Proofs.Http.Lines
import ScriptHost.Proofs.Number.Numeral
import ScriptHost.Proofs.Text.Order

/-! The head of a response as it is written. What the check lets pass stays within its line, so the
lines of the head are those of the writer, and the first empty line ends it. -/
namespace ScriptHost.Http

open Text (equalIgnoringCase)

/-- A text that neither ends a line nor begins to. -/
def IsUnbroken (text : String) : Prop := '\r' ∉ text.toList ∧ '\n' ∉ text.toList

instance : DecidablePred IsUnbroken := fun _ => inferInstanceAs (Decidable (_ ∧ _))

namespace IsUnbroken

theorem append {front back : String} (first : IsUnbroken front) (second : IsUnbroken back) :
    IsUnbroken (front ++ back) := by
  rw [IsUnbroken, String.toList_append, List.mem_append, List.mem_append]
  exact ⟨not_or.mpr ⟨first.1, second.1⟩, not_or.mpr ⟨first.2, second.2⟩⟩

theorem of_isToken {name : String} (token : isToken name) : IsUnbroken name :=
  ⟨not_mem_of_isToken token (by decide), not_mem_of_isToken token (by decide)⟩

theorem toString (number : Nat) : IsUnbroken (toString number) := by
  have carriage : '\r'.toNat = 13 := rfl
  have feed : '\n'.toNat = 10 := rfl
  constructor
  all_goals
    intro member
    have code := (Number.numeral_toString number).code_of_mem member
    omega

theorem reasonPhrase (status : Nat) : IsUnbroken (reasonPhrase status) := by
  unfold Http.reasonPhrase
  split <;> decide

/-- The bytes of such a text hold no line break either. -/
theorem not_mem_toBytes {text : String} (unbroken : IsUnbroken text) :
    13 ∉ Text.toBytes text ∧ 10 ∉ Text.toBytes text := by
  have ascii (mark : Char) (small : mark.toNat < 0x80) (absent : mark ∉ text.toList) :
      UInt8.ofNat mark.toNat ∉ Text.toBytes text :=
    mt (Text.mem_encode_iff small).mp absent
  exact ⟨ascii '\r' (by decide) unbroken.1, ascii '\n' (by decide) unbroken.2⟩

end IsUnbroken

theorem validate_eq_ok_iff {headers : Headers} :
    headers.validate = .ok () ↔ ∀ entry ∈ headers.entries, headerFault? entry.1 entry.2 = none := by
  rw [← List.findSome?_eq_none_iff, Headers.validate]
  cases found : headers.entries.findSome? fun entry => headerFault? entry.1 entry.2 <;> simp_all

theorem writable_of_headerFault? {name value : String} (sound : headerFault? name value = none) :
    isToken name ∧ IsUnbroken value := by
  rw [headerFault?] at sound
  split at sound
  · contradiction
  · rename_i token
    split at sound
    · contradiction
    · rename_i unbroken
      refine ⟨by simpa using token, ?_, ?_⟩ <;>
        exact fun member => unbroken (List.any_eq_true.mpr ⟨_, member, rfl⟩)

/-- The line that a header is written on. -/
def headerLine (header : String × String) : String := header.1 ++ ": " ++ header.2

theorem cutAtChar?_headerLine {header : String × String} (token : isToken header.1) :
    cutAtChar? ':' (headerLine header) = some (header.1, " " ++ header.2) := by
  refine cutAtChar?_eq_some_iff.mpr ⟨?_, not_mem_of_isToken token isTokenChar_colon⟩
  rw [headerLine, String.append_assoc, String.append_assoc]
  rfl

namespace Response

def statusLine (response : Response) : String :=
  response.version.text ++ " " ++ toString response.status ++ " " ++ reasonPhrase response.status

def headLines (response : Response) (omitBody : Bool) : List String :=
  response.statusLine :: (response.headerLines omitBody).map headerLine

end Response

theorem toBytes_head (response : Response) (omitBody : Bool) :
    Text.toBytes (response.head omitBody) = crlf (response.headLines omitBody ++ [""]) := by
  have feed : Text.toBytes "\r\n" = [13, 10] := by decide
  have none : Text.toBytes "" = [] := rfl
  rw [Response.head, Response.headLines, Response.statusLine]
  simp only [Text.toBytes_append, Text.toBytes_join, crlf, headerLine, feed, none,
    List.flatMap_append, List.flatMap_cons, List.flatMap_nil, List.flatMap_map, List.append_assoc,
    List.append_nil, List.nil_append, List.cons_append]

private theorem exists_crlf_eq_cons {line : String} (solid : line ≠ "" ∧ IsUnbroken line)
    (more : List String) : ∃ byte bytes, crlf (line :: more) = byte :: bytes ∧ byte ≠ 13 := by
  obtain ⟨filled, unbroken⟩ := solid
  have nonempty : Text.toBytes line ≠ [] := by
    intro empty
    have same : Text.encode line.toList = Text.encode [] := empty
    exact filled (String.toList_eq_nil_iff.mp (Text.encode_injective same))
  obtain ⟨byte, bytes, begun⟩ := List.exists_cons_of_ne_nil nonempty
  refine ⟨byte, bytes ++ [13, 10] ++ crlf more, ?_, ?_⟩
  · rw [crlf, List.flatMap_cons, begun]
    rfl
  · intro same
    subst same
    exact unbroken.not_mem_toBytes.1 (begun ▸ List.mem_cons_self)

/-- The first empty line is the one behind the last line. -/
theorem cutAt?_crlf {lines : List String} (nonempty : lines ≠ [])
    (solid : ∀ line ∈ lines, line ≠ "" ∧ IsUnbroken line) (rest : Bytes) :
    Text.cutAt? [13, 10, 13, 10] (crlf (lines ++ [""]) ++ rest) =
      some ([13, 10].intercalate (lines.map Text.toBytes), rest) := by
  induction lines with
  | nil => contradiction
  | cons line more ih =>
    obtain ⟨⟨_, unbroken⟩, behind⟩ := List.forall_mem_cons.mp solid
    have absent := unbroken.not_mem_toBytes.1
    cases more with
    | nil =>
      have written : crlf ([line] ++ [""]) = Text.toBytes line ++ [13, 10, 13, 10] := by
        simp [crlf, show Text.toBytes "" = [] from rfl]
      rw [written, Text.cutAt?_append_sep absent, List.map_singleton, List.intercalate_singleton]
    | cons next more =>
      have written : crlf (line :: next :: more ++ [""]) ++ rest =
          Text.toBytes line ++ 13 :: 10 :: (crlf (next :: more ++ [""]) ++ rest) := by
        simp [crlf]
      obtain ⟨byte, bytes, begun, plain⟩ :=
        exists_crlf_eq_cons (solid next (by simp)) (more ++ [""])
      -- The line break in front of a line with a first byte is not followed by another one.
      have first : Text.after? [13, 10, 13, 10]
          (13 :: 10 :: (crlf (next :: more ++ [""]) ++ rest)) = none := by
        rw [List.cons_append, begun]
        simp [Text.after?, Ne.symm plain]
      have second : Text.after? [13, 10, 13, 10]
          (10 :: (crlf (next :: more ++ [""]) ++ rest)) = none := rfl
      rw [written, Text.cutAt?_append_of_not_mem absent, Text.cutAt?_cons_of_not_start first,
        Text.cutAt?_cons_of_not_start second, ih (List.cons_ne_nil next more) behind]
      simp [List.intercalate_cons_cons]

private theorem ne_empty_of_mem {text : String} (char : Char) (member : char ∈ text.toList) :
    text ≠ "" := by
  intro empty
  subst empty
  contradiction

theorem solid_statusLine (response : Response) :
    response.statusLine ≠ "" ∧ IsUnbroken response.statusLine := by
  have version : IsUnbroken response.version.text := by cases response.version <;> decide
  have space : IsUnbroken " " := by decide
  rw [Response.statusLine]
  refine ⟨ne_empty_of_mem ' ' (by simp), ?_⟩
  exact (((version.append space).append (.toString _)).append space).append (.reasonPhrase _)

theorem solid_headerLine {header : String × String} (token : isToken header.1)
    (unbroken : IsUnbroken header.2) :
    headerLine header ≠ "" ∧ IsUnbroken (headerLine header) := by
  have mark : IsUnbroken ": " := by decide
  rw [headerLine]
  exact ⟨ne_empty_of_mem ':' (by simp),
    ((IsUnbroken.of_isToken token).append mark).append unbroken⟩

variable {response : Response} {omitBody : Bool}

/-- The lines of accepted headers keep to the grammar. -/
theorem writable_of_mem_headerLines (valid : response.headers.validate = .ok ())
    {header : String × String} (member : header ∈ response.headerLines omitBody) :
    isToken header.1 ∧ IsUnbroken header.2 := by
  rw [Response.headerLines] at member
  rcases List.mem_append.mp member with front | last
  · rcases List.mem_append.mp front with kept | sized
    · have present := (List.mem_filter.mp kept).1
      exact writable_of_headerFault? (validate_eq_ok_iff.mp valid header present)
    · split at sized
      · rw [List.mem_singleton.mp sized]
        have token : isToken "Content-Length" := by decide
        exact ⟨token, .toString _⟩
      · contradiction
  · rw [List.mem_singleton.mp last]
    exact ⟨by decide, by decide⟩

theorem solid_of_mem_headLines (valid : response.headers.validate = .ok ()) :
    ∀ line ∈ response.headLines omitBody, line ≠ "" ∧ IsUnbroken line := by
  intro line member
  rcases List.mem_cons.mp member with rfl | behind
  · exact solid_statusLine response
  · obtain ⟨header, written, rfl⟩ := List.mem_map.mp behind
    obtain ⟨token, unbroken⟩ := writable_of_mem_headerLines valid written
    exact solid_headerLine token unbroken

/-- The first empty line ends the head of a response with accepted headers. -/
theorem cutAt?_toBytes (valid : response.headers.validate = .ok ()) :
    Text.cutAt? [13, 10, 13, 10] (response.toBytes omitBody) =
      some ([13, 10].intercalate ((response.headLines omitBody).map Text.toBytes),
        if omitBody || forbidsBody response.status then [] else response.body) := by
  have filled : response.headLines omitBody ≠ [] := List.cons_ne_nil _ _
  rw [Response.toBytes, toBytes_head, cutAt?_crlf filled (solid_of_mem_headLines valid)]
  cases omitBody <;> cases forbidsBody response.status <;> rfl

/-- Split at its line breaks, the head is nothing but its lines. -/
theorem splitOn_headLines (valid : response.headers.validate = .ok ()) (omitBody : Bool) :
    Text.splitOn [13, 10] ([13, 10].intercalate ((response.headLines omitBody).map Text.toBytes)) =
      (response.headLines omitBody).map Text.toBytes := by
  refine Text.splitOn_intercalate (List.cons_ne_nil _ _) ?_
  intro piece member
  obtain ⟨line, written, rfl⟩ := List.mem_map.mp member
  exact (solid_of_mem_headLines valid line written).2.not_mem_toBytes.1

namespace Response

/-- What a response comes to on the wire: a head that ends with the first empty line, the headers of
the caller that are kept in it, the lines that the writer adds, and the body. -/
structure Serialized (response : Response) (omitBody : Bool) (head : Bytes)
    (kept : List (String × String)) (added : List String) : Prop where
  ends : Text.cutAt? [13, 10, 13, 10] (response.toBytes omitBody) =
    some (head, if omitBody || forbidsBody response.status then [] else response.body)
  lines : Text.splitOn [13, 10] head =
    ([response.statusLine] ++ kept.map headerLine ++ added ++ ["Connection: close"]).map
      Text.toBytes
  unbroken : ∀ line ∈ Text.splitOn [13, 10] head, 13 ∉ line ∧ 10 ∉ line
  /-- A length is kept only if the reply describes a body that is left out. -/
  passed : kept = response.headers.entries.filter fun entry =>
    !equalIgnoringCase entry.1 "connection" &&
      !(equalIgnoringCase entry.1 "content-length" && (forbidsBody response.status || !omitBody))
  ordered : (kept.map fun entry => Text.toBytes entry.1).Pairwise (· < ·)
  /-- A length is added unless one is kept or none is allowed. -/
  sized : added =
    if forbidsBody response.status ||
        kept.any fun entry => equalIgnoringCase entry.1 "content-length" then []
    else ["Content-Length: " ++ toString response.body.length]
  closes : ∀ line ∈ kept.map headerLine ++ added, ∀ name value,
    cutAtChar? ':' line = some (name, value) → ¬equalIgnoringCase name "connection"

end Response

private theorem keptHeaders_eq : response.keptHeaders omitBody =
    response.headers.entries.filter fun entry =>
      !equalIgnoringCase entry.1 "connection" &&
        !(equalIgnoringCase entry.1 "content-length" &&
          (forbidsBody response.status || !omitBody)) := by
  refine List.filter_congr fun entry _ => ?_
  rw [keepsHeader]
  cases equalIgnoringCase entry.1 "connection" <;>
    cases equalIgnoringCase entry.1 "content-length" <;> simp

private theorem not_named_connection {field content name value : String} (token : isToken field)
    (other : ¬equalIgnoringCase field "connection")
    (cut : cutAtChar? ':' (headerLine (field, content)) = some (name, value)) :
    ¬equalIgnoringCase name "connection" := by
  rw [cutAtChar?_headerLine token] at cut
  obtain ⟨rfl, _⟩ := Prod.mk.inj (Option.some.inj cut)
  exact other

/-- The line that tells the length, unless a header that tells it is kept or none is allowed. -/
private def lengthLines (response : Response) (omitBody : Bool) : List String :=
  if forbidsBody response.status || (response.keptHeaders omitBody).any fun entry =>
    equalIgnoringCase entry.1 "content-length" then []
  else ["Content-Length: " ++ toString response.body.length]

private theorem headLines_eq : response.headLines omitBody =
    [response.statusLine] ++ (response.keptHeaders omitBody).map headerLine ++
      lengthLines response omitBody ++ ["Connection: close"] := by
  have close : headerLine ("Connection", "close") = "Connection: close" := by decide
  have length (value : String) : headerLine ("Content-Length", value) =
    "Content-Length: " ++ value := rfl
  rw [Response.headLines, Response.headerLines, lengthLines]
  cases forbidsBody response.status <;>
    cases (response.keptHeaders omitBody).any fun entry =>
      equalIgnoringCase entry.1 "content-length" <;> simp [close, length]

/-- No header that is accepted can begin another line of the head or end the head, whatever it is
named and whatever the body holds. -/
theorem exists_serialized (valid : response.headers.validate = .ok ()) (omitBody : Bool) :
    ∃ head kept added, response.Serialized omitBody head kept added := by
  have split := splitOn_headLines valid omitBody
  refine ⟨[13, 10].intercalate ((response.headLines omitBody).map Text.toBytes),
    response.keptHeaders omitBody, lengthLines response omitBody, ?_⟩
  constructor
  case ends => exact cutAt?_toBytes valid
  case lines => rw [split, headLines_eq]
  case unbroken =>
    rw [split]
    intro line member
    obtain ⟨text, written, rfl⟩ := List.mem_map.mp member
    exact (solid_of_mem_headLines valid text written).2.not_mem_toBytes
  case passed => exact keptHeaders_eq
  case ordered =>
    have ascending := response.headers.ascending.filter fun entry =>
      keepsHeader response.status omitBody entry.1
    exact List.pairwise_map.mpr (ascending.imp Text.toBytes_lt_of_compare)
  case sized => rfl
  case closes =>
    intro line member name value cut
    rcases List.mem_append.mp member with kept | added
    · obtain ⟨header, written, rfl⟩ := List.mem_map.mp kept
      obtain ⟨present, keeps⟩ := List.mem_filter.mp written
      obtain ⟨token, _⟩ := writable_of_headerFault? (validate_eq_ok_iff.mp valid header present)
      refine not_named_connection token ?_ cut
      intro named
      simp [keepsHeader, named] at keeps
    · rw [lengthLines] at added
      split at added
      · contradiction
      · rw [List.mem_singleton.mp added] at cut
        have token : isToken "Content-Length" := by decide
        have other : ¬equalIgnoringCase "Content-Length" "connection" := by decide
        exact not_named_connection token other cut

theorem exists_serialized_typed :
    let headers : Headers := SortedMap.ofList
      [("X-Ok", "v"), ("connection", "keep-alive"), ("Content-Length", "9")]
    let response : Response := ⟨.http11, 200, headers, Text.toBytes "a\r\n\r\nb"⟩
    headers.validate = .ok () ∧
      ∃ head, response.Serialized false head [("X-Ok", "v")] ["Content-Length: 6"] := by
  intro headers response
  have valid : headers.validate = .ok () := by decide
  have accepted : response.headers.validate = .ok () := valid
  obtain ⟨head, kept, added, written⟩ := exists_serialized accepted false
  have passed : kept = [("X-Ok", "v")] := written.passed.trans (by decide)
  subst passed
  have sized : added = ["Content-Length: 6"] := written.sized.trans (by decide)
  subst sized
  exact ⟨valid, head, written⟩

/-- Where no body is allowed, a length is left out and nothing replaces it. -/
theorem length_dropped_of_noContent :
    let length : String × String := ("Content-Length", "5")
    let response : Response := ⟨.http11, 204, SortedMap.ofList [length], []⟩
    response.headers.validate = .ok () ∧
      ∃ head, Text.cutAt? [13, 10, 13, 10] (response.toBytes false) = some (head, []) ∧
        ∀ (kept : List (String × String)) (added : List String),
          Text.splitOn [13, 10] head =
              ([response.statusLine] ++ kept.map headerLine ++ added ++ ["Connection: close"]).map
                Text.toBytes →
            length ∉ kept ∧ added = [] := by
  intro length response
  have valid : response.headers.validate = .ok () := by decide
  have lines : response.headLines false = [response.statusLine, "Connection: close"] := by decide
  refine ⟨valid, _, cutAt?_toBytes valid, ?_⟩
  intro kept added split
  rw [splitOn_headLines valid false, lines] at split
  have count := congrArg List.length split
  simp only [List.length_map, List.length_append, List.length_cons, List.length_nil] at count
  have noKept : kept = [] := List.length_eq_zero_iff.mp (by omega)
  have noAdded : added = [] := List.length_eq_zero_iff.mp (by omega)
  subst noKept noAdded
  exact ⟨List.not_mem_nil, rfl⟩

end ScriptHost.Http
