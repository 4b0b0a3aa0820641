import ScriptHost.Proofs.Http.RequestHead
import ScriptHost.Proofs.Number.Numeral

/-! Requests whose body is framed by its length: nothing but an accepted head and a body of the
length that it declares is read as such a request. -/
namespace ScriptHost.Http

/-- How long the body is: nothing is declared, or a single header declares it with a numeral. -/
inductive DeclaresLength (fields : List Field) : Nat → Prop where
  | none (absent : valuesOf "Content-Length" fields = []) : DeclaresLength fields 0
  | single (once : valuesOf "Content-Length" fields = [value])
      (numeral : Number.Numeral 10 value.toList length) (small : length < UInt64.size) :
      DeclaresLength fields length

theorem declaresLength_of_nil {fields : List Field} {length : Nat}
    (absent : valuesOf "Content-Length" fields = []) :
    DeclaresLength fields length ↔ length = 0 := by
  constructor
  · intro declared
    cases declared with
    | none => rfl
    | single once => rw [absent] at once; contradiction
  · intro same
    subst same
    exact .none absent

theorem declaresLength_of_single {fields : List Field} {value : String} {length : Nat}
    (single : valuesOf "Content-Length" fields = [value]) :
    DeclaresLength fields length ↔
      Number.Numeral 10 value.toList length ∧ length < UInt64.size := by
  constructor
  · intro declared
    cases declared with
    | none absent => rw [single] at absent; contradiction
    | single once numeral small =>
      rw [single] at once
      obtain rfl := (List.cons.inj once).1
      exact ⟨numeral, small⟩
  · intro framed
    obtain ⟨numeral, small⟩ := framed
    exact .single single numeral small

theorem not_declaresLength_of_many {fields : List Field} {first second : String}
    {more : List String} {length : Nat}
    (many : valuesOf "Content-Length" fields = first :: second :: more) :
    ¬DeclaresLength fields length := by
  intro declared
  cases declared with
  | none absent => simp [many] at absent
  | single once => simp [many] at once

theorem find?_transferEncoding (fields : List Field) :
    (Headers.ofFields fields).find? "Transfer-Encoding" =
      joined (valuesOf "Transfer-Encoding" fields) := by
  rw [← Headers.find?_ofFields]
  rfl

theorem find?_contentLength (fields : List Field) :
    (Headers.ofFields fields).find? "Content-Length" =
      joined (valuesOf "Content-Length" fields) := by
  rw [← Headers.find?_ofFields]
  rfl

theorem trim_of_mem_valuesOf {name value : String} {fields : List Field}
    (member : value ∈ valuesOf name fields) : Text.trim value = value := by
  obtain ⟨field, _, rfl⟩ := List.mem_map.mp member
  exact Text.trim_trim field.value

/-- Joined values hold a comma, so they are no numeral. -/
private theorem decimal?_joined (first second : String) (more : List String) :
    Number.decimal? (Text.trim (", ".intercalate (first :: second :: more))) = none := by
  cases read : Number.decimal? (Text.trim (", ".intercalate (first :: second :: more))) with
  | none => rfl
  | some length =>
    obtain ⟨numeral, _⟩ := Number.decimal?_eq_some_iff.mp read
    rw [Text.trim, String.toList_ofList] at numeral
    have comma : ',' ∈ (", ".intercalate (first :: second :: more)).toList := by
      rw [String.intercalate_cons_cons]
      simp
    have code : ','.toNat = 44 := rfl
    have := numeral.code_of_mem (Text.mem_trimChars_of_mem comma rfl)
    omega

/-- Without a transfer coding, a body is read exactly if its declared length is within the limit and
so many bytes are there. -/
theorem readBody_lengthFramed_iff {fields : List Field} {limits : Limits} {source rest : Source}
    {body : Bytes} (plain : valuesOf "Transfer-Encoding" fields = []) :
    readBody (Headers.ofFields fields) limits source = .ok (body, rest) ↔
      DeclaresLength fields body.length ∧ body.length ≤ limits.maxBodyBytes ∧
        source = rest.behind body := by
  rw [readBody, find?_transferEncoding, plain, find?_contentLength]
  simp only [joined]
  cases values : valuesOf "Content-Length" fields with
  | nil =>
    rw [declaresLength_of_nil values, List.length_eq_zero_iff]
    constructor
    · intro read
      obtain ⟨rfl, rfl⟩ := Prod.mk.inj (Except.ok.inj read)
      exact ⟨rfl, Nat.zero_le _, rfl⟩
    · intro framed
      obtain ⟨rfl, _, rfl⟩ := framed
      rfl
  | cons value more =>
    cases more with
    | nil =>
      have trimmed : Text.trim value = value :=
        trim_of_mem_valuesOf (values ▸ List.mem_singleton_self value)
      rw [declaresLength_of_single values]
      simp only [String.intercalate_singleton, trimmed]
      constructor
      · intro read
        split at read
        · contradiction
        · rename_i length found
          obtain ⟨numeral, small⟩ := Number.decimal?_eq_some_iff.mp found
          split at read
          · contradiction
          · rename_i bounded
            obtain ⟨rfl, rfl⟩ := Source.exactly_eq_ok_iff.mp read
            exact ⟨⟨numeral, small⟩, Nat.le_of_not_gt bounded, rfl⟩
      · intro framed
        obtain ⟨declared, bounded, rfl⟩ := framed
        rw [Number.decimal?_eq_some_iff.mpr declared]
        simp only [if_neg (Nat.not_lt.mpr bounded)]
        exact Source.exactly_eq_ok_iff.mpr ⟨rfl, rfl⟩
    | cons second more =>
      simp only [decimal?_joined, reduceCtorEq, false_iff]
      intro framed
      obtain ⟨declared, _⟩ := framed
      exact not_declaresLength_of_many values declared

/-- A request without a transfer coding is read exactly off an accepted head and a body of the
length that it declares, and nothing behind the body is touched. -/
theorem readRequest_lengthFramed_iff {limits : Limits} {source rest : Source} {request : Request} :
    readRequest limits source = .ok (request, rest) ∧
        request.header? "Transfer-Encoding" = none ↔
      ∃ head headBytes body, Head.Accepted head limits headBytes ∧
        valuesOf "Transfer-Encoding" head.fields = [] ∧
        DeclaresLength head.fields body.length ∧ body.length ≤ limits.maxBodyBytes ∧
        request = head.request body ∧ source = rest.behind (headBytes ++ body) := by
  have plain (head : Head) (body : Bytes) :
      (head.request body).header? "Transfer-Encoding" = none ↔
        valuesOf "Transfer-Encoding" head.fields = [] := by
    rw [Request.header?, Headers.value?, Head.request, Headers.find?_ofFields, joined_eq_none_iff]
  rw [readRequest_eq_ok_iff]
  constructor
  · intro framed
    obtain ⟨⟨head, headBytes, afterHead, accepted, rfl, body, read, rfl⟩, absent⟩ := framed
    have uncoded := (plain head body).mp absent
    obtain ⟨declared, bounded, rfl⟩ := (readBody_lengthFramed_iff uncoded).mp read
    exact ⟨head, headBytes, body, accepted, uncoded, declared, bounded, rfl,
      (Source.behind_append rest headBytes body).symm⟩
  · intro framed
    obtain ⟨head, headBytes, body, accepted, uncoded, declared, bounded, rfl, rfl⟩ := framed
    refine ⟨⟨head, headBytes, rest.behind body, accepted, Source.behind_append rest headBytes body,
      body, ?_, rfl⟩, (plain head body).mpr uncoded⟩
    exact (readBody_lengthFramed_iff uncoded).mpr ⟨declared, bounded, rfl⟩

end ScriptHost.Http
