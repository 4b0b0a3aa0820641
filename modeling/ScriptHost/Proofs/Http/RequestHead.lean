import ScriptHost.Proofs.Http.HeaderFields
import ScriptHost.Proofs.Http.Lines

/-! The grammar of what stands in front of a body. A request is read off a source exactly if the
source starts with an accepted head and the body can be read behind it. -/
namespace ScriptHost.Http

/-- Empty lines, a request line and header lines. -/
structure Head where
  blanks : Nat
  method : String
  target : String
  version : Version
  fields : List Field

namespace Head

def requestLine (head : Head) : String :=
  head.method ++ " " ++ head.target ++ " " ++ head.version.text

/-- All lines, up to and with the empty one behind the headers. -/
def lines (head : Head) : List String :=
  List.replicate head.blanks "" ++ [head.requestLine] ++ head.fields.map Field.line ++ [""]

/-- The bytes spell a head that keeps to the grammar and to the limit. -/
structure Accepted (head : Head) (limits : Limits) (bytes : Bytes) : Prop where
  method : isToken head.method
  target : head.target ≠ ""
  spaceless : ' ' ∉ head.target.toList
  names : ∀ field ∈ head.fields, isToken field.name
  spelled : Lines head.lines bytes
  fits : bytes.length ≤ limits.maxHeaderBytes

def request (head : Head) (body : Bytes) : Request where
  method := head.method
  target := head.target
  path := before '?' head.target
  version := head.version
  headers := Headers.ofFields head.fields
  body := body

end Head

theorem Version.ofText_eq_ok_iff {text : String} {version : Version} :
    Version.ofText text = .ok version ↔ text = version.text := by
  constructor
  · intro read
    unfold ofText at read
    split at read
    · rename_i same
      cases read
      exact same
    · split at read
      · rename_i same
        cases read
        exact same
      · contradiction
  · intro same
    subst same
    cases version <;> rfl

/-- A request line is read exactly off a method, a target and a version with single spaces. -/
theorem RequestLine.ofText_eq_ok_iff {line : String} {parts : RequestLine} :
    RequestLine.ofText line = .ok parts ↔
      isToken parts.method ∧ parts.target ≠ "" ∧ ' ' ∉ parts.target.toList ∧
        line = parts.method ++ " " ++ parts.target ++ " " ++ parts.version.text := by
  constructor
  · intro read
    rw [RequestLine.ofText] at read
    split at read
    · contradiction
    · rename_i method target version cuts
      obtain ⟨⟨_, rest⟩, first, second⟩ := Option.bind_eq_some_iff.mp cuts
      obtain ⟨⟨_, _⟩, second, same⟩ := Option.map_eq_some_iff.mp second
      cases same
      obtain ⟨rfl, _⟩ := cutAtChar?_eq_some_iff.mp first
      obtain ⟨rfl, spaceless⟩ := cutAtChar?_eq_some_iff.mp second
      split at read
      · contradiction
      · rename_i present
        split at read
        · contradiction
        · rename_i token
          cases accepted : Version.ofText version with
          | error error => simp [accepted, Except.map] at read
          | ok known =>
            rw [accepted] at read
            obtain rfl := Except.ok.inj read
            have target : target ≠ "" := by
              intro same
              subst same
              simp at present
            refine ⟨by simpa using token, target, spaceless, ?_⟩
            rw [Version.ofText_eq_ok_iff.mp accepted]
            simp [String.append_assoc]
  · intro written
    obtain ⟨token, target, spaceless, rfl⟩ := written
    have first : cutAtChar? ' ' (parts.method ++ " " ++ parts.target ++ " " ++ parts.version.text) =
        some (parts.method, parts.target ++ " " ++ parts.version.text) := by
      refine cutAtChar?_eq_some_iff.mpr ⟨?_, not_mem_of_isToken token isTokenChar_space⟩
      simp only [String.append_assoc]
      rfl
    have second : cutAtChar? ' ' (parts.target ++ " " ++ parts.version.text) =
        some (parts.target, parts.version.text) :=
      cutAtChar?_eq_some_iff.mpr ⟨rfl, spaceless⟩
    rw [RequestLine.ofText, first]
    simp only [Option.bind_some, second, Option.map_some]
    rw [if_neg (by simp [ne_empty_of_isToken token, target]), if_neg (by simp [token]),
      Version.ofText_eq_ok_iff.mpr rfl]
    rfl

/-- The first line that is not empty is read exactly off the lines up to and with it. -/
theorem firstLine_eq_ok_iff {budget : Nat} {source : Source} {line : Line} :
    firstLine budget source = .ok line ↔
      line.text ≠ "" ∧ ∃ blanks bytes, Lines (List.replicate blanks "" ++ [line.text]) bytes ∧
        source = line.rest.behind bytes ∧ line.budget + bytes.length = budget := by
  constructor
  · intro read
    induction budget using Nat.strongRecOn generalizing source with
    | ind budget ih =>
      rw [firstLine] at read
      split at read
      · contradiction
      · rename_i first found
        obtain ⟨bytes, spelled, rfl, paid⟩ := Source.line_eq_ok_iff.mp found
        split at read
        · rename_i blank
          obtain ⟨nonempty, blanks, more, lines, behind, left⟩ :=
            ih first.budget (Source.shrinks_of_line found).1 read
          rw [String.isEmpty_iff.mp blank] at spelled
          refine ⟨nonempty, blanks + 1, bytes ++ more, .cons spelled lines, ?_, ?_⟩
          · rw [Source.behind_append, behind]
          · rw [List.length_append]
            omega
        · rename_i nonempty
          obtain rfl := Except.ok.inj read
          refine ⟨fun empty => nonempty (String.isEmpty_iff.mpr empty), 0, bytes, ?_, rfl, paid⟩
          simpa using Lines.cons spelled .nil
  · intro written
    obtain ⟨nonempty, blanks, bytes, lines, rfl, rfl⟩ := written
    have written : line.text.isEmpty = false := by simpa using nonempty
    induction blanks generalizing bytes with
    | zero =>
      obtain _ | ⟨last, rest⟩ := lines
      cases rest
      rw [List.append_nil, firstLine, Source.line_behind last]
      simp [written]
    | succ blanks ih =>
      obtain _ | @⟨_, front, _, back, blank, rest⟩ := lines
      have total : line.budget + (front ++ back).length =
          line.budget + back.length + front.length := by
        rw [List.length_append]
        omega
      rw [firstLine, Source.behind_append, total, Source.line_behind blank]
      simpa using ih back rest

/-- Headers are read exactly off accepted header lines and the empty line behind them. -/
theorem readHeaders_eq_ok_iff {headers result : Headers} {budget : Nat} {source rest : Source} :
    readHeaders headers budget source = .ok (result, rest) ↔
      ∃ (fields : List Field) (bytes : Bytes), (∀ field ∈ fields, isToken field.name) ∧
        Lines (fields.map Field.line ++ [""]) bytes ∧ bytes.length ≤ budget ∧
        source = rest.behind bytes ∧ result = fields.foldl Headers.addField headers := by
  constructor
  · intro read
    induction budget using Nat.strongRecOn generalizing headers source with
    | ind budget ih =>
      rw [readHeaders] at read
      split at read
      · contradiction
      · rename_i line found
        obtain ⟨bytes, spelled, rfl, paid⟩ := Source.line_eq_ok_iff.mp found
        split at read
        · rename_i blank
          obtain ⟨rfl, rfl⟩ := Prod.mk.inj (Except.ok.inj read)
          rw [String.isEmpty_iff.mp blank] at spelled
          refine ⟨[], bytes, by simp, ?_, by omega, rfl, rfl⟩
          simpa using Lines.cons spelled .nil
        · split at read
          · contradiction
          · rename_i more added
            obtain ⟨field, token, written, rfl⟩ := Headers.addLine_eq_ok_iff.mp added
            obtain ⟨fields, back, tokens, lines, fits, behind, same⟩ :=
              ih line.budget (Source.shrinks_of_line found).1 read
            rw [written] at spelled
            refine ⟨field :: fields, bytes ++ back, ?_, .cons spelled lines, ?_, ?_, same⟩
            · exact List.forall_mem_cons.mpr ⟨token, tokens⟩
            · rw [List.length_append]
              omega
            · rw [Source.behind_append, behind]
  · intro written
    obtain ⟨fields, bytes, tokens, lines, fits, rfl, rfl⟩ := written
    obtain ⟨left, rfl⟩ := Nat.exists_eq_add_of_le' fits
    clear fits
    induction fields generalizing headers bytes with
    | nil =>
      obtain _ | ⟨last, rest⟩ := lines
      cases rest
      rw [List.append_nil, readHeaders, Source.line_behind last]
      simp
    | cons field fields ih =>
      obtain _ | @⟨_, front, _, back, first, more⟩ := lines
      obtain ⟨token, tokens⟩ := List.forall_mem_cons.mp tokens
      have total : left + (front ++ back).length = left + back.length + front.length := by
        rw [List.length_append]
        omega
      have written : field.line.isEmpty = false := by simp [Field.line]
      have added : headers.addLine field.line = .ok (headers.addField field) :=
        Headers.addLine_eq_ok_iff.mpr ⟨field, token, rfl, rfl⟩
      rw [readHeaders, Source.behind_append, total, Source.line_behind first]
      simpa [written, added] using ih back tokens more

/-- Behind an accepted head, the body decides. -/
theorem readRequest_of_accepted {head : Head} {limits : Limits} {bytes : Bytes}
    (accepted : head.Accepted limits bytes) (afterHead : Source) :
    readRequest limits (afterHead.behind bytes) =
      (readBody (Headers.ofFields head.fields) limits afterHead).map
        fun (body, rest) => (head.request body, rest) := by
  obtain ⟨method, target, spaceless, names, spelled, fits⟩ := accepted
  rw [Head.lines, List.append_assoc] at spelled
  obtain ⟨front, back, opening, headers, rfl⟩ := spelled.cut
  rw [List.length_append] at fits
  obtain ⟨left, enough⟩ := Nat.exists_eq_add_of_le' fits
  have first : firstLine limits.maxHeaderBytes (afterHead.behind (front ++ back)) =
      .ok ⟨head.requestLine, left + back.length, afterHead.behind back⟩ := by
    refine firstLine_eq_ok_iff.mpr ⟨?_, head.blanks, front, opening, ?_, by dsimp only; omega⟩
    · simp [Head.requestLine]
    · rw [Source.behind_append]
  have parts : RequestLine.ofText head.requestLine = .ok ⟨head.method, head.target, head.version⟩ :=
    RequestLine.ofText_eq_ok_iff.mpr ⟨method, target, spaceless, rfl⟩
  have collected : readHeaders SortedMap.empty (left + back.length) (afterHead.behind back) =
      .ok (Headers.ofFields head.fields, afterHead) :=
    readHeaders_eq_ok_iff.mpr ⟨head.fields, back, names, headers, by omega, rfl, rfl⟩
  rw [readRequest, first]
  simp only [bind, Except.bind, parts, collected]
  cases readBody (Headers.ofFields head.fields) limits afterHead <;> rfl

theorem readRequest_of_framed {head : Head} {limits : Limits} {bytes body : Bytes}
    {afterHead rest : Source} (accepted : head.Accepted limits bytes)
    (framed : readBody (Headers.ofFields head.fields) limits afterHead = .ok (body, rest)) :
    readRequest limits (afterHead.behind bytes) = .ok (head.request body, rest) := by
  rw [readRequest_of_accepted accepted, framed]
  rfl

private theorem bind_eq_ok_iff {found : Except HostError α} {next : α → Except HostError β}
    {result : β} :
    found >>= next = .ok result ↔ ∃ item, found = .ok item ∧ next item = .ok result := by
  cases found <;> simp [bind, Except.bind]

/-- A request is read exactly off an accepted head and a body that can be read behind it. -/
theorem readRequest_eq_ok_iff {limits : Limits} {source rest : Source} {request : Request} :
    readRequest limits source = .ok (request, rest) ↔
      ∃ head bytes afterHead, Head.Accepted head limits bytes ∧ source = afterHead.behind bytes ∧
        ∃ body, readBody (Headers.ofFields head.fields) limits afterHead = .ok (body, rest) ∧
          request = head.request body := by
  constructor
  · intro read
    rw [readRequest] at read
    obtain ⟨line, first, read⟩ := bind_eq_ok_iff.mp read
    obtain ⟨parts, second, read⟩ := bind_eq_ok_iff.mp read
    obtain ⟨⟨headers, afterHead⟩, third, read⟩ := bind_eq_ok_iff.mp read
    obtain ⟨⟨body, after⟩, last, read⟩ := bind_eq_ok_iff.mp read
    obtain ⟨rfl, rfl⟩ := Prod.mk.inj (Except.ok.inj read)
    obtain ⟨_, blanks, front, opening, rfl, paid⟩ := firstLine_eq_ok_iff.mp first
    obtain ⟨method, target, spaceless, written⟩ := RequestLine.ofText_eq_ok_iff.mp second
    obtain ⟨fields, back, names, lines, fits, behind, rfl⟩ := readHeaders_eq_ok_iff.mp third
    let head : Head := ⟨blanks, parts.method, parts.target, parts.version, fields⟩
    have spelled : Lines head.lines (front ++ back) := by
      rw [Head.lines, List.append_assoc]
      rw [written] at opening
      exact opening.append lines
    refine ⟨head, front ++ back, afterHead, ⟨method, target, spaceless, names, spelled, ?_⟩, ?_,
      body, last, rfl⟩
    · rw [List.length_append]
      omega
    · rw [Source.behind_append, behind]
  · intro written
    obtain ⟨head, bytes, afterHead, accepted, rfl, body, framed, rfl⟩ := written
    exact readRequest_of_framed accepted framed

end ScriptHost.Http
