import ScriptHost.Proofs.Http.RequestHead
import ScriptHost.Proofs.Map.Entries

/-! Looking up the headers of a request that was read: each spelling of a name finds the values of all
header lines with that name, and nothing else. -/
namespace ScriptHost.Http

open Text (equalIgnoringCase)

theorem Headers.find?_foldl_addField_of_ne {headers : Headers} {fields : List Field}
    {name : String} (unnamed : ∀ field ∈ fields, name ≠ canonicalName field.name) :
    (fields.foldl addField headers).find? name = headers.find? name := by
  induction fields generalizing headers with
  | nil => rfl
  | cons field fields ih =>
    obtain ⟨other, others⟩ := List.forall_mem_cons.mp unnamed
    rw [List.foldl_cons, ih others, addField, find?_add_of_ne _ _ other]

/-- The map that header lines fill has the canonical spellings of their names for its keys. -/
theorem Headers.mem_keys_ofFields_iff {fields : List Field} {key : String} :
    key ∈ (ofFields fields).keys ↔ ∃ field ∈ fields, canonicalName field.name = key := by
  constructor
  · intro member
    obtain ⟨⟨key, value⟩, entry, rfl⟩ := List.mem_map.mp member
    by_contra unnamed
    push Not at unnamed
    have nothing : (ofFields fields).find? key = none :=
      find?_foldl_addField_of_ne fun field member => (unnamed field member).symm
    rw [SortedMap.mem_entries_iff.mp entry] at nothing
    cases nothing
  · rintro ⟨field, member, rfl⟩
    have named : valuesOf field.name fields ≠ [] := fun none =>
      valuesOf_eq_nil_iff.mp none field member (canonicalName_eq_iff.mp rfl)
    have found := joined_eq_some_iff.mpr ⟨named, rfl⟩
    rw [← find?_ofFields] at found
    exact List.mem_map_of_mem (SortedMap.mem_entries_iff.mpr found)

/-- Looking up any spelling of a name finds the values of exactly the header lines with that name, in
their order, and the names are kept in one spelling. -/
structure Request.Holds (request : Request) (fields : List Field) : Prop where
  missing : ∀ name, request.header? name = none ↔ ∀ field ∈ fields, ¬field.IsNamed name
  found : ∀ name text, request.header? name = some text ↔
    (∃ field ∈ fields, field.IsNamed name) ∧ text = ", ".intercalate (valuesOf name fields)
  keys : ∀ key, key ∈ request.headers.keys ↔ ∃ field ∈ fields, canonicalName field.name = key
  canonical : ∀ key ∈ request.headers.keys, canonicalName key = key

theorem Head.holds_request (head : Head) (body : Bytes) : (head.request body).Holds head.fields := by
  have found (name : String) :
      (head.request body).header? name = joined (valuesOf name head.fields) :=
    Headers.find?_ofFields head.fields name
  refine ⟨fun name => ?_, fun name text => ?_, fun _ => Headers.mem_keys_ofFields_iff,
    fun key member => ?_⟩
  · rw [found, joined_eq_none_iff, valuesOf_eq_nil_iff]
  · rw [found, joined_eq_some_iff, Ne, valuesOf_eq_nil_iff]
    push Not
    rfl
  · obtain ⟨field, _, rfl⟩ := Headers.mem_keys_ofFields_iff.mp member
    exact canonicalName_canonicalName field.name

/-- A request that is read holds the header lines that its source starts with. Names have one
canonical spelling exactly if they differ in ASCII case at most, and that spelling is its own. -/
theorem headers_of_readRequest :
    (∀ limits source request rest, readRequest limits source = .ok (request, rest) →
      (∃ (head : Head) (bytes : Bytes) (afterHead : Source), head.Accepted limits bytes ∧
        source = afterHead.behind bytes) ∧
      ∀ (head : Head) (bytes : Bytes) (afterHead : Source), head.Accepted limits bytes →
        source = afterHead.behind bytes → request.Holds head.fields) ∧
      (∀ first second,
        canonicalName first = canonicalName second ↔ equalIgnoringCase first second) ∧
      ∀ name, canonicalName (canonicalName name) = canonicalName name := by
  refine ⟨fun limits source request rest read => ⟨?_, ?_⟩, fun _ _ => canonicalName_eq_iff,
    canonicalName_canonicalName⟩
  · obtain ⟨head, bytes, afterHead, accepted, spelled, _⟩ := readRequest_eq_ok_iff.mp read
    exact ⟨head, bytes, afterHead, accepted, spelled⟩
  · rintro head bytes afterHead accepted rfl
    rw [readRequest_of_accepted accepted] at read
    cases body : readBody (Headers.ofFields head.fields) limits afterHead with
    | error error => simp [body, Except.map] at read
    | ok framed =>
      rw [body] at read
      obtain ⟨rfl, rfl⟩ := Prod.mk.inj (Except.ok.inj read)
      exact head.holds_request framed.1

theorem headers_of_readRequest_joined :
    let fields : List Field := [⟨"x-tag", " one "⟩, ⟨"Accept", "all"⟩, ⟨"X-TAG", "two"⟩]
    let head : Head := ⟨0, "GET", "/", .http11, fields⟩
    let request := head.request []
    readRequest {} ((Source.mk [] .closed).behind (crlf head.lines)) =
        .ok (request, ⟨[], .closed⟩) ∧
      request.header? "X-tag" = some "one, two" ∧ request.header? "tag" = none := by
  intro fields head request
  have accepted : head.Accepted {} (crlf head.lines) :=
    ⟨by decide, by decide, by decide, by decide, lines_crlf (by decide), by decide⟩
  have read : readRequest {} ((Source.mk [] .closed).behind (crlf head.lines)) =
      .ok (request, ⟨[], .closed⟩) := by
    rw [readRequest_of_accepted accepted]
    rfl
  have holds := (headers_of_readRequest.1 _ _ _ _ read).2 head _ _ accepted rfl
  refine ⟨read, (holds.found _ _).mpr ⟨⟨_, .head _, by decide⟩, by decide⟩, ?_⟩
  exact (holds.missing _).mpr (by decide)

end ScriptHost.Http
