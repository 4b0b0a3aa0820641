import ScriptHost.Proofs.Registry.Indexes

/-! Registration in any order. Builtins can all be registered exactly if their signatures agree with
themselves and no two of them claim the same number or place, and then the order in which they come
leaves no trace. -/
namespace ScriptHost.Registry

variable {registry registry' : Registry} {builtins held first second : List Builtin}

/-- Two signatures that claim neither the same number nor the same place. -/
structure Apart (first second : Signature) : Prop where
  id : first.id ≠ second.id
  byName : ∀ name, nameKey? first = some name → nameKey? second ≠ some name
  byMethod : ∀ key, methodKey? first = some key → methodKey? second ≠ some key

theorem Apart.symm {first second : Signature} (apart : Apart first second) :
    Apart second first where
  id := apart.id.symm
  byName := fun name here there => apart.byName name there here
  byMethod := fun key here there => apart.byMethod key there here

/-- Builtins whose signatures agree with themselves and are apart from each other. -/
structure Compatible (builtins : List Builtin) : Prop where
  valid : ∀ builtin ∈ builtins, builtin.signature.validate = .ok ()
  apart : builtins.Pairwise fun first second => Apart first.signature second.signature

theorem Compatible.nil : Compatible [] := ⟨nofun, .nil⟩

theorem Compatible.perm (compatible : Compatible first) (same : first.Perm second) :
    Compatible second where
  valid := fun builtin member => compatible.valid builtin (same.mem_iff.mpr member)
  apart := (same.pairwise_iff Apart.symm).mp compatible.apart

theorem Compatible.sublist (compatible : Compatible second) (part : first.Sublist second) :
    Compatible first where
  valid := fun builtin member => compatible.valid builtin (part.subset member)
  apart := compatible.apart.sublist part

theorem compatible_append_iff {builtin : Builtin} :
    Compatible (held ++ [builtin]) ↔ Compatible held ∧ builtin.signature.validate = .ok () ∧
      ∀ other ∈ held, Apart other.signature builtin.signature := by
  constructor
  · rintro ⟨valid, apart⟩
    obtain ⟨earlier, _, across⟩ := List.pairwise_append.mp apart
    refine ⟨⟨fun other member => valid other (List.mem_append_left _ member), earlier⟩,
      valid builtin (by simp), fun other member => across other member builtin (by simp)⟩
  · rintro ⟨⟨valid, apart⟩, last, across⟩
    refine ⟨?_, List.pairwise_append.mpr ⟨apart, List.pairwise_singleton .., ?_⟩⟩
    · simpa [or_imp, forall_and] using ⟨valid, last⟩
    · simpa using across

section

variable {Key : Type} [Ord Key] {index index' : SortedMap Key BuiltinId}
  {place : Signature → Option Key}

theorem Names.find?_eq_none_iff (names : Names index place builtins) {key : Key} :
    index.find? key = none ↔ ∀ builtin ∈ builtins, place builtin.signature ≠ some key := by
  constructor
  · intro free builtin member there
    rw [(names key _).mpr ⟨builtin, member, rfl, there⟩] at free
    cases free
  · intro elsewhere
    cases found : index.find? key with
    | none => rfl
    | some id =>
      obtain ⟨builtin, member, _, there⟩ := (names key id).mp found
      exact absurd there (elsewhere builtin member)

theorem Names.eq_of_perm [Std.TransOrd Key] [Std.LawfulEqOrd Key]
    (names : Names index place first) (names' : Names index' place second)
    (same : first.Perm second) : index = index' := by
  refine SortedMap.eq_of_find?_eq fun key => Option.ext fun id => ?_
  rw [names key id, names' key id]
  simp only [same.mem_iff]

end

/-- The places of a signature are free exactly if it is apart from all that is held. -/
theorem Holds.free_iff (holds : Holds registry held) {builtin : Builtin} :
    registry.Free builtin.signature ↔ builtin.signature.validate = .ok () ∧
      ∀ other ∈ held, Apart other.signature builtin.signature := by
  constructor
  · rintro ⟨valid, fresh, byName, byMethod⟩
    refine ⟨valid, fun other member => ⟨holds.fresh fresh other member, ?_, ?_⟩⟩
    · intro name here there
      exact holds.byName.find?_eq_none_iff.mp (byName name there) other member here
    · intro key here there
      exact holds.byMethod.find?_eq_none_iff.mp (byMethod key there) other member here
  · rintro ⟨valid, apart⟩
    refine ⟨valid, ?_, fun name there => ?_, fun key there => ?_⟩
    · cases found : registry.byId.find? builtin.signature.id with
      | none => rfl
      | some other =>
        obtain ⟨member, same⟩ := (holds.byId _ other).mp found
        exact absurd same (apart other member).id
    · exact holds.byName.find?_eq_none_iff.mpr fun other member here =>
        (apart other member).byName name here there
    · exact holds.byMethod.find?_eq_none_iff.mpr fun other member here =>
        (apart other member).byMethod key here there

theorem adds_of_registered {builtin : Builtin}
    (registered : registry.register builtin = .ok registry') : Adds registry builtin registry' := by
  rw [register] at registered
  split at registered
  · rename_i ran
    obtain rfl := Except.ok.inj registered
    exact adds_of_taken ran
  · cases registered

theorem exists_register_iff {builtin : Builtin} :
    (∃ registry', registry.register builtin = .ok registry') ↔ registry.Free builtin.signature := by
  constructor
  · rintro ⟨after, registered⟩
    exact (adds_of_registered registered).free
  · intro free
    rw [register]
    split
    · exact ⟨_, rfl⟩
    · rename_i ran
      exact absurd free ((ends_add registry builtin).of_error ran).2.not_free

theorem foldlM_cons_eq_ok_iff {builtin : Builtin} :
    (builtin :: builtins).foldlM register registry = .ok registry' ↔
      ∃ next, registry.register builtin = .ok next ∧
        builtins.foldlM register next = .ok registry' := by
  rw [List.foldlM_cons]
  cases registry.register builtin <;> simp [bind, Except.bind]

theorem Holds.foldlM (holds : Holds registry held)
    (taken : builtins.foldlM register registry = .ok registry') :
    Holds registry' (held ++ builtins) := by
  induction builtins generalizing registry held with
  | nil =>
    obtain rfl : registry = registry' := Except.ok.inj taken
    rwa [List.append_nil]
  | cons builtin rest ih =>
    obtain ⟨next, first, later⟩ := foldlM_cons_eq_ok_iff.mp taken
    simpa using ih (holds.add (adds_of_registered first)) later

/-- Behind compatible builtins others can all be registered exactly if they are compatible with them
and with each other. -/
theorem Holds.exists_foldlM_iff (holds : Holds registry held) (compatible : Compatible held) :
    (∃ registry', builtins.foldlM register registry = .ok registry') ↔
      Compatible (held ++ builtins) := by
  induction builtins generalizing registry held with
  | nil => exact ⟨fun _ => by rwa [List.append_nil], fun _ => ⟨registry, rfl⟩⟩
  | cons builtin rest ih =>
    have split : held ++ builtin :: rest = held ++ [builtin] ++ rest := by simp
    simp only [foldlM_cons_eq_ok_iff]
    constructor
    · rintro ⟨last, next, first, later⟩
      have adds := adds_of_registered first
      have more := compatible_append_iff.mpr ⟨compatible, holds.free_iff.mp adds.free⟩
      rw [split]
      exact (ih (holds.add adds) more).mp ⟨last, later⟩
    · intro all
      rw [split] at all
      have more : Compatible (held ++ [builtin]) := all.sublist (List.sublist_append_left ..)
      have free := holds.free_iff.mpr (compatible_append_iff.mp more).2
      obtain ⟨next, first⟩ := exists_register_iff.mpr free
      have adds := adds_of_registered first
      obtain ⟨last, later⟩ := (ih (holds.add adds) more).mpr all
      exact ⟨last, next, first, later⟩

/-- Registries that hold the same builtins are the same. -/
theorem Holds.eq_of_perm (holds : Holds registry first) (holds' : Holds registry' second)
    (same : first.Perm second) : registry = registry' := by
  have byId : registry.byId = registry'.byId := by
    refine SortedMap.eq_of_find?_eq fun id => Option.ext fun builtin => ?_
    rw [holds.byId, holds'.byId, same.mem_iff]
  have byName := holds.byName.eq_of_perm holds'.byName same
  have byMethod := holds.byMethod.eq_of_perm holds'.byMethod same
  cases registry
  cases registry'
  exact congr (congr (congrArg Registry.mk byId) byName) byMethod

/-- A builtin is refused once another one has its number. -/
theorem Holds.register_ne_ok (holds : Holds registry held) {earlier later : Builtin}
    (member : earlier ∈ held) (same : earlier.signature.id = later.signature.id) :
    registry.register later ≠ .ok registry' := by
  intro registered
  exact holds.fresh (adds_of_registered registered).free.byId earlier member same

/-- Two registries answer every question alike. -/
structure AnswersAlike (first second : Registry) : Prop where
  byId : ∀ id, first.findById? id = second.findById? id
  byName : ∀ name, first.findByName? name = second.findByName? name
  byMethod : ∀ receiver method,
    first.findMethod? receiver method = second.findMethod? receiver method
  listed : first.signatures = second.signatures

/-- If builtins can all be registered one after another, then they can in any order, and the
registry answers alike. Of two builtins with one number the later one is refused, whatever was
offered before them and in between. -/
theorem registered_in_any_order (same : first.Perm second) :
    ((∃ registry, first.foldlM register empty = .ok registry) ↔
        ∃ registry, second.foldlM register empty = .ok registry) ∧
      (∀ registry registry', first.foldlM register empty = .ok registry →
        second.foldlM register empty = .ok registry' → AnswersAlike registry registry') ∧
      ∀ before between (earlier later : Builtin) registry registry',
        earlier.signature.id = later.signature.id →
        (empty.registerAll before).register earlier = .ok registry →
        (registry.registerAll between).register later ≠ .ok registry' := by
  refine ⟨?_, ?_, ?_⟩
  · rw [holds_empty.exists_foldlM_iff .nil, holds_empty.exists_foldlM_iff .nil]
    exact ⟨fun compatible => compatible.perm same, fun compatible => compatible.perm same.symm⟩
  · intro registry registry' taken taken'
    obtain rfl := (holds_empty.foldlM taken).eq_of_perm (holds_empty.foldlM taken') same
    exact ⟨fun _ => rfl, fun _ => rfl, fun _ _ => rfl, rfl⟩
  · intro before between earlier later registry registry' same registered
    have holds := (holds_registerAll before).add (adds_of_registered registered)
    exact (holds.registerAll between).register_ne_ok (by simp) same

/-- A function and a method, the later number first. -/
theorem registered_in_any_order_swapped :
    let function : Builtin := ⟨.function ⟨2⟩ "now", fun _ _ => pure (.finished .unit)⟩
    let method : Builtin := ⟨.ofMethod ⟨1⟩ .string "size", fun _ _ => pure (.finished .unit)⟩
    [function, method].Perm [method, function] ∧
      ∃ registry registry', [function, method].foldlM register empty = .ok registry ∧
        [method, function].foldlM register empty = .ok registry' ∧
        AnswersAlike registry registry' := by
  intro function method
  have same : [function, method].Perm [method, function] := .swap ..
  have valid : method.signature.validate = .ok () :=
    Signature.validate_eq_ok_iff.mpr ⟨rfl, rfl, .inl ⟨.string, "size", rfl, rfl, rfl⟩⟩
  have apart : Apart function.signature method.signature :=
    ⟨by decide, fun _ _ => nofun, fun _ => nofun⟩
  have compatible : Compatible ([] ++ [function, method]) :=
    ⟨List.forall_mem_cons.mpr ⟨rfl, List.forall_mem_singleton.mpr valid⟩,
      List.pairwise_pair.mpr apart⟩
  obtain ⟨registry, taken⟩ := (holds_empty.exists_foldlM_iff .nil).mpr compatible
  obtain ⟨registry', taken'⟩ := (registered_in_any_order same).1.mp ⟨registry, taken⟩
  exact ⟨same, _, registry', taken, taken', (registered_in_any_order same).2.1 _ _ taken taken'⟩

end ScriptHost.Registry
