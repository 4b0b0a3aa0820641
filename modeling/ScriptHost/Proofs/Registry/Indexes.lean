import ScriptHost.Proofs.Action.Outcome
import ScriptHost.Proofs.Map.Entries
import ScriptHost.Registry

/-! The three indexes of a registry agree with each other and with the builtins that it took,
whatever it was offered and in whichever order. -/
namespace ScriptHost

instance : Std.LawfulEqOrd MethodKey where
  compare_self := compareLex_eq_eq.mpr
    ⟨Std.LawfulEqOrd.compare_eq_iff_eq.mpr rfl, Std.LawfulEqOrd.compare_eq_iff_eq.mpr rfl⟩
  eq_of_compare {first second} same := by
    obtain ⟨receivers, methods⟩ := compareLex_eq_eq.mp same
    have receiver := Std.LawfulEqOrd.compare_eq_iff_eq.mp receivers
    have method := Std.LawfulEqOrd.compare_eq_iff_eq.mp methods
    cases first
    cases second
    exact MethodKey.mk.injEq .. ▸ ⟨receiver, method⟩

/-- A signature agrees with itself if every parameter has a name and a type, and it has either a
receiver, which is the first parameter, and a method name, or neither. -/
theorem Signature.validate_eq_ok_iff {signature : Signature} :
    signature.validate = .ok () ↔ signature.paramNames.length = signature.arity ∧
      signature.paramTypes.length = signature.arity ∧
      ((∃ receiver method, signature.receiver = some receiver ∧ signature.method = some method ∧
          signature.paramTypes.head? = some receiver) ∨
        signature.receiver = none ∧ signature.method = none) := by
  rw [validate]
  split
  · simp_all
  · split
    · simp_all
    · cases receiver : signature.receiver <;> cases method : signature.method <;> simp_all

namespace Registry

/-- What a signature without a receiver is found by. -/
def nameKey? (signature : Signature) : Option String :=
  match methodKey? signature with
  | some _ => none
  | none => some signature.name

theorem methodKey?_eq_some_iff {signature : Signature} {key : MethodKey} :
    methodKey? signature = some key ↔ ∃ receiver, signature.receiver = some receiver ∧
      receiver.kind = key.receiver ∧ signature.method = some key.method := by
  rw [methodKey?]
  cases receiver : signature.receiver <;> cases method : signature.method <;> simp
  constructor
  · rintro rfl
    exact ⟨rfl, rfl⟩
  · rintro ⟨sameKind, sameMethod⟩
    rw [sameKind, sameMethod]

theorem nameKey?_eq_some_iff {signature : Signature} {name : String} :
    nameKey? signature = some name ↔ methodKey? signature = none ∧ signature.name = name := by
  rw [nameKey?]
  cases methodKey? signature <;> simp

theorem plain_of_methodKey?_eq_none {signature : Signature} (valid : signature.validate = .ok ())
    (plain : methodKey? signature = none) :
    signature.receiver = none ∧ signature.method = none := by
  obtain ⟨_, _, ⟨receiver, method, hasReceiver, hasMethod, _⟩ | neither⟩ :=
    Signature.validate_eq_ok_iff.mp valid
  · rw [methodKey?, hasReceiver, hasMethod] at plain
    cases plain
  · exact neither

variable {registry registry' : Registry} {builtin : Builtin} {builtins : List Builtin}

/-- A signature agrees with itself and nothing stands in its places. -/
structure Free (registry : Registry) (signature : Signature) : Prop where
  valid : signature.validate = .ok ()
  byId : registry.byId.find? signature.id = none
  byName : ∀ name, nameKey? signature = some name → registry.byName.find? name = none
  byMethod : ∀ key, methodKey? signature = some key → registry.byMethod.find? key = none

/-- A builtin is taken if its signature agrees with itself and nothing stands in its places; then
it stands there, and nothing else changes. -/
inductive Adds (registry : Registry) (builtin : Builtin) : Registry → Prop where
  | method (valid : builtin.signature.validate = .ok ())
      (fresh : registry.byId.find? builtin.signature.id = none)
      (isMethod : methodKey? builtin.signature = some key)
      (free : registry.byMethod.find? key = none) :
      Adds registry builtin
        { registry with
          byId := registry.byId.insert builtin.signature.id builtin
          byMethod := registry.byMethod.insert key builtin.signature.id }
  | function (valid : builtin.signature.validate = .ok ())
      (fresh : registry.byId.find? builtin.signature.id = none)
      (isPlain : methodKey? builtin.signature = none)
      (free : registry.byName.find? builtin.signature.name = none) :
      Adds registry builtin
        { registry with
          byId := registry.byId.insert builtin.signature.id builtin
          byName := registry.byName.insert builtin.signature.name builtin.signature.id }

/-- Why a builtin is refused: its signature does not agree with itself, or else something stands
under its number, or else something stands where it would be found. -/
inductive Refuses (registry : Registry) (signature : Signature) : RegistrationError → Prop where
  | invalid (fault : signature.validate = .error error) : Refuses registry signature error
  | id (valid : signature.validate = .ok ())
      (taken : registry.byId.find? signature.id = some existing) :
      Refuses registry signature (.duplicateId signature.id existing.signature.name)
  | method (valid : signature.validate = .ok ())
      (fresh : registry.byId.find? signature.id = none)
      (isMethod : methodKey? signature = some key)
      (taken : registry.byMethod.find? key = some other) :
      Refuses registry signature (.duplicateMethod key.receiver key.method)
  | function (valid : signature.validate = .ok ())
      (fresh : registry.byId.find? signature.id = none)
      (isPlain : methodKey? signature = none)
      (taken : registry.byName.find? signature.name = some other) :
      Refuses registry signature (.duplicateName signature.name)

theorem Refuses.not_free {signature : Signature} {error : RegistrationError}
    (refuses : Refuses registry signature error) : ¬registry.Free signature := by
  intro free
  cases refuses with
  | invalid fault => simp [free.valid] at fault
  | id _ taken => simp [free.byId] at taken
  | method _ _ isMethod taken => simp [free.byMethod _ isMethod] at taken
  | function _ _ isPlain taken =>
    simp [free.byName _ (nameKey?_eq_some_iff.mpr ⟨isPlain, rfl⟩)] at taken

theorem ends_add (registry : Registry) (builtin : Builtin) :
    Ends (add builtin) registry
      (fun error after => after = registry ∧ Refuses registry builtin.signature error)
      fun _ after => Adds registry builtin after := by
  rw [add]
  cases valid : builtin.signature.validate with
  | error error => simpa using Refuses.invalid valid
  | ok _ =>
    cases fresh : registry.byId.find? builtin.signature.id with
    | some existing => simpa [fresh] using .id valid fresh
    | none =>
      cases isMethod : methodKey? builtin.signature with
      | some key =>
        cases place : registry.byMethod.find? key with
        | some other =>
          simpa [fresh, SortedMap.contains, place] using .method valid fresh isMethod place
        | none => simpa [fresh, SortedMap.contains, place] using .method valid fresh isMethod place
      | none =>
        cases place : registry.byName.find? builtin.signature.name with
        | some other =>
          simpa [fresh, SortedMap.contains, place] using .function valid fresh isMethod place
        | none => simpa [fresh, SortedMap.contains, place] using .function valid fresh isMethod place

/-- A builtin that is refused changes nothing. -/
theorem eq_of_refused (refused : (add builtin).run registry = (.error error, registry')) :
    registry' = registry := ((ends_add registry builtin).of_error refused).1

theorem adds_of_taken (taken : (add builtin).run registry = (.ok (), registry')) :
    Adds registry builtin registry' := (ends_add registry builtin).of_ok taken

theorem Adds.free (adds : Adds registry builtin registry') : registry.Free builtin.signature := by
  cases adds with
  | method valid fresh isMethod free =>
    refine ⟨valid, fresh, fun name named => ?_, fun key there => ?_⟩
    · rw [nameKey?, isMethod] at named
      cases named
    · obtain rfl := Option.some.inj (isMethod.symm.trans there)
      exact free
  | function valid fresh isPlain free =>
    refine ⟨valid, fresh, fun name named => ?_, fun key there => ?_⟩
    · obtain ⟨_, rfl⟩ := nameKey?_eq_some_iff.mp named
      exact free
    · rw [isPlain] at there
      cases there

section Index

variable {Key : Type} [Ord Key] [Std.TransOrd Key] [Std.LawfulEqOrd Key] [DecidableEq Key]
  {index : SortedMap Key BuiltinId} {place : Signature → Option Key} {key : Key}

/-- An index names some builtins, each where its signature has its place. -/
def Names (index : SortedMap Key BuiltinId) (place : Signature → Option Key)
    (builtins : List Builtin) : Prop :=
  ∀ key id, index.find? key = some id ↔
    ∃ builtin ∈ builtins, builtin.signature.id = id ∧ place builtin.signature = some key

omit [Std.TransOrd Key] [Std.LawfulEqOrd Key] [DecidableEq Key] in
theorem Names.keep (names : Names index place builtins)
    (elsewhere : place builtin.signature = none) :
    Names index place (builtins ++ [builtin]) := by
  intro key id
  simp [names key id, or_and_right, exists_or, elsewhere]

theorem Names.insert (names : Names index place builtins)
    (here : place builtin.signature = some key) (free : index.find? key = none) :
    Names (index.insert key builtin.signature.id) place (builtins ++ [builtin]) := by
  intro other id
  have unused : ∀ found ∈ builtins, place found.signature ≠ some key := by
    intro found member same
    rw [(names key _).mpr ⟨found, member, rfl, same⟩] at free
    cases free
  rw [SortedMap.find?_insert]
  split
  · rename_i same
    subst same
    constructor
    · intro held
      exact ⟨builtin, by simp, Option.some.inj held, here⟩
    · rintro ⟨found, member, same, there⟩
      rcases List.mem_append.mp member with earlier | last
      · exact absurd there (unused found earlier)
      · obtain rfl := List.mem_singleton.mp last
        rw [same]
  · rename_i different
    have elsewhere : place builtin.signature ≠ some other := by
      rw [here]
      exact fun same => different (Option.some.inj same).symm
    simp [names other id, or_and_right, exists_or, elsewhere]

end Index

/-- What the indexes of a registry answer once it took some builtins. -/
structure Holds (registry : Registry) (builtins : List Builtin) : Prop where
  valid : ∀ builtin ∈ builtins, builtin.signature.validate = .ok ()
  byId : ∀ id builtin, registry.byId.find? id = some builtin ↔
    builtin ∈ builtins ∧ builtin.signature.id = id
  byName : Names registry.byName nameKey? builtins
  byMethod : Names registry.byMethod methodKey? builtins
  listed : registry.byId.items.Perm builtins

theorem holds_empty : Holds empty [] where
  valid := nofun
  byId := by simp [empty]
  byName := by simp [Names, empty]
  byMethod := by simp [Names, empty]
  listed := .refl _

/-- Nothing that a registry holds has the number of a builtin that it takes. -/
theorem Holds.fresh (holds : Holds registry builtins)
    (missing : registry.byId.find? builtin.signature.id = none) :
    ∀ other ∈ builtins, other.signature.id ≠ builtin.signature.id := by
  intro other member same
  rw [(holds.byId _ other).mpr ⟨member, same⟩] at missing
  cases missing

theorem Holds.byId_insert (holds : Holds registry builtins)
    (missing : registry.byId.find? builtin.signature.id = none) (id : BuiltinId) (found : Builtin) :
    (registry.byId.insert builtin.signature.id builtin).find? id = some found ↔
      found ∈ builtins ++ [builtin] ∧ found.signature.id = id := by
  rw [SortedMap.find?_insert, List.mem_append, List.mem_singleton]
  split
  · rename_i same
    subst same
    constructor
    · intro here
      obtain rfl := Option.some.inj here
      exact ⟨.inr rfl, rfl⟩
    · rintro ⟨earlier | rfl, same⟩
      · exact absurd same (holds.fresh missing found earlier)
      · rfl
  · rename_i different
    rw [holds.byId]
    constructor
    · rintro ⟨member, same⟩
      exact ⟨.inl member, same⟩
    · rintro ⟨earlier | rfl, same⟩
      · exact ⟨earlier, same⟩
      · exact absurd same.symm different

theorem Holds.listed_insert (holds : Holds registry builtins)
    (missing : registry.byId.find? builtin.signature.id = none) :
    (registry.byId.insert builtin.signature.id builtin).items.Perm (builtins ++ [builtin]) := by
  have entries := (SortedMap.entries_insert_perm builtin missing).map Prod.snd
  exact entries.trans ((holds.listed.cons builtin).trans (List.perm_append_singleton ..).symm)

theorem Holds.valid_append (holds : Holds registry builtins)
    (valid : builtin.signature.validate = .ok ()) :
    ∀ other ∈ builtins ++ [builtin], other.signature.validate = .ok () := by
  intro other member
  rcases List.mem_append.mp member with earlier | last
  · exact holds.valid other earlier
  · obtain rfl := List.mem_singleton.mp last
    exact valid

theorem Holds.add (holds : Holds registry builtins) (adds : Adds registry builtin registry') :
    Holds registry' (builtins ++ [builtin]) := by
  cases adds with
  | method valid fresh isMethod free =>
    have noName : nameKey? builtin.signature = none := by rw [nameKey?, isMethod]
    exact ⟨holds.valid_append valid, holds.byId_insert fresh, holds.byName.keep noName,
      holds.byMethod.insert isMethod free, holds.listed_insert fresh⟩
  | function valid fresh isPlain free =>
    have name := nameKey?_eq_some_iff.mpr ⟨isPlain, rfl⟩
    exact ⟨holds.valid_append valid, holds.byId_insert fresh, holds.byName.insert name free,
      holds.byMethod.keep isPlain, holds.listed_insert fresh⟩

/-- The builtins that a registry takes of those that it is offered in turn. -/
def accepted (registry : Registry) : List Builtin → List Builtin
  | [] => []
  | builtin :: rest =>
    match (add builtin).run registry with
    | (.ok (), registry') => builtin :: registry'.accepted rest
    | (.error _, registry') => registry'.accepted rest

theorem registerAll_cons (registry : Registry) (builtin : Builtin) (rest : List Builtin) :
    registry.registerAll (builtin :: rest) = ((add builtin).run registry).2.registerAll rest := rfl

theorem registerAll_append (registry : Registry) (first second : List Builtin) :
    registry.registerAll (first ++ second) = (registry.registerAll first).registerAll second :=
  List.foldl_append

theorem accepted_append (registry : Registry) (first second : List Builtin) :
    registry.accepted (first ++ second) =
      registry.accepted first ++ (registry.registerAll first).accepted second := by
  induction first generalizing registry with
  | nil => rfl
  | cons builtin rest ih =>
    rw [List.cons_append, registerAll_cons, accepted, accepted]
    rcases (add builtin).run registry with ⟨_ | _, registry'⟩
    · exact ih registry'
    · exact congrArg (builtin :: ·) (ih registry')

theorem accepted_sublist (registry : Registry) (offered : List Builtin) :
    (registry.accepted offered).Sublist offered := by
  induction offered generalizing registry with
  | nil => exact .slnil
  | cons builtin rest ih =>
    rw [accepted]
    rcases (add builtin).run registry with ⟨_ | _, registry'⟩
    · exact (ih registry').cons builtin
    · exact (ih registry').cons_cons builtin

theorem Holds.registerAll (holds : Holds registry builtins) (offered : List Builtin) :
    Holds (registry.registerAll offered) (builtins ++ registry.accepted offered) := by
  induction offered generalizing registry builtins with
  | nil => simpa [Registry.registerAll, accepted] using holds
  | cons builtin rest ih =>
    rw [registerAll_cons, accepted]
    rcases ran : (Registry.add builtin).run registry with ⟨_ | _, registry'⟩
    · obtain rfl := eq_of_refused ran
      exact ih holds
    · simpa using ih (holds.add (adds_of_taken ran))

/-- The indexes of the registry that took what it could of some builtins. -/
theorem holds_registerAll (offered : List Builtin) :
    Holds (empty.registerAll offered) (empty.accepted offered) := holds_empty.registerAll offered

/-- How the indexes of a registry agree with each other and with the builtins that were
registered. -/
structure Consistent (registry : Registry) (registered : List Builtin) : Prop where
  byId : ∀ id builtin, (id, builtin) ∈ registry.byId.entries →
    builtin ∈ registered ∧ builtin.signature.id = id ∧ builtin.signature.validate = .ok ()
  byName : ∀ name id, (name, id) ∈ registry.byName.entries →
    ∃ builtin, (id, builtin) ∈ registry.byId.entries ∧ builtin.signature.receiver = none ∧
      builtin.signature.method = none ∧ builtin.signature.name = name
  byMethod : ∀ key id, (key, id) ∈ registry.byMethod.entries →
    ∃ builtin receiver, (id, builtin) ∈ registry.byId.entries ∧
      builtin.signature.receiver = some receiver ∧ receiver.kind = key.receiver ∧
      builtin.signature.method = some key.method
  /-- A builtin has one entry in one of the two other indexes and none in the other. -/
  onePlace : ∀ id builtin, (id, builtin) ∈ registry.byId.entries →
    (∃ name, registry.byName.keysOf id = [name]) ∧ registry.byMethod.keysOf id = [] ∨
      registry.byName.keysOf id = [] ∧ ∃ key, registry.byMethod.keysOf id = [key]
  size : registry.size = registered.length
  listed : registry.signatures.Perm (registered.map (·.signature))
  ordered : registry.signatures.Pairwise fun first second => first.id.number < second.id.number

section

variable {Key : Type} [Ord Key] [Std.LawfulEqOrd Key] {index : SortedMap Key BuiltinId}
  {place : Signature → Option Key}

theorem Names.keysOf_of_some (names : Names index place builtins) (member : builtin ∈ builtins)
    (single : ∀ other ∈ builtins, other.signature.id = builtin.signature.id → other = builtin)
    (here : place builtin.signature = some key) :
    index.keysOf builtin.signature.id = [key] := by
  refine SortedMap.keysOf_eq_singleton ?_
  intro other
  rw [names]
  constructor
  · rintro ⟨found, held, same, there⟩
    obtain rfl := single found held same
    exact Option.some.inj (there.symm.trans here)
  · rintro rfl
    exact ⟨builtin, member, rfl, here⟩

theorem Names.keysOf_of_none (names : Names index place builtins)
    (single : ∀ other ∈ builtins, other.signature.id = builtin.signature.id → other = builtin)
    (elsewhere : place builtin.signature = none) : index.keysOf builtin.signature.id = [] := by
  refine SortedMap.keysOf_eq_nil ?_
  intro key named
  obtain ⟨found, held, same, there⟩ := (names _ _).mp named
  obtain rfl := single found held same
  rw [elsewhere] at there
  cases there

end

theorem Holds.single (holds : Holds registry builtins) (member : builtin ∈ builtins) :
    ∀ other ∈ builtins, other.signature.id = builtin.signature.id → other = builtin := by
  intro other held same
  have first := (holds.byId builtin.signature.id builtin).mpr ⟨member, rfl⟩
  have second := (holds.byId builtin.signature.id other).mpr ⟨held, same⟩
  exact Option.some.inj (second.symm.trans first)

theorem Holds.onePlace (holds : Holds registry builtins) (member : builtin ∈ builtins) :
    (∃ name, registry.byName.keysOf builtin.signature.id = [name]) ∧
        registry.byMethod.keysOf builtin.signature.id = [] ∨
      registry.byName.keysOf builtin.signature.id = [] ∧
        ∃ key, registry.byMethod.keysOf builtin.signature.id = [key] := by
  have single := holds.single member
  cases isMethod : methodKey? builtin.signature with
  | none =>
    have name := nameKey?_eq_some_iff.mpr ⟨isMethod, rfl⟩
    exact .inl ⟨⟨_, holds.byName.keysOf_of_some member single name⟩,
      holds.byMethod.keysOf_of_none single isMethod⟩
  | some key =>
    have noName : nameKey? builtin.signature = none := by rw [nameKey?, isMethod]
    exact .inr ⟨holds.byName.keysOf_of_none single noName,
      ⟨_, holds.byMethod.keysOf_of_some member single isMethod⟩⟩

theorem Holds.ordered (holds : Holds registry builtins) :
    registry.signatures.Pairwise fun first second => first.id.number < second.id.number := by
  have numbered : ∀ entry ∈ registry.byId.entries, entry.2.signature.id = entry.1 := by
    intro entry member
    exact ((holds.byId _ _).mp (SortedMap.mem_entries_iff.mp member)).2
  rw [signatures, SortedMap.items, List.map_map, List.pairwise_map]
  refine registry.byId.ascending.imp_of_mem ?_
  intro first second firstMember secondMember less
  rw [Function.comp_apply, Function.comp_apply, numbered first firstMember,
    numbered second secondMember]
  exact Nat.compare_eq_lt.mp less

theorem Holds.consistent (holds : Holds registry builtins) : Consistent registry builtins where
  byId := by
    intro id builtin member
    obtain ⟨held, same⟩ := (holds.byId id builtin).mp (SortedMap.mem_entries_iff.mp member)
    exact ⟨held, same, holds.valid builtin held⟩
  byName := by
    intro name id member
    obtain ⟨builtin, held, same, named⟩ :=
      (holds.byName name id).mp (SortedMap.mem_entries_iff.mp member)
    obtain ⟨plain, named⟩ := nameKey?_eq_some_iff.mp named
    obtain ⟨noReceiver, noMethod⟩ := plain_of_methodKey?_eq_none (holds.valid builtin held) plain
    exact ⟨builtin, SortedMap.mem_entries_iff.mpr ((holds.byId id builtin).mpr ⟨held, same⟩),
      noReceiver, noMethod, named⟩
  byMethod := by
    intro key id member
    obtain ⟨builtin, held, same, isMethod⟩ :=
      (holds.byMethod key id).mp (SortedMap.mem_entries_iff.mp member)
    obtain ⟨receiver, hasReceiver, sameKind, sameMethod⟩ := methodKey?_eq_some_iff.mp isMethod
    exact ⟨builtin, receiver,
      SortedMap.mem_entries_iff.mpr ((holds.byId id builtin).mpr ⟨held, same⟩), hasReceiver,
      sameKind, sameMethod⟩
  onePlace := by
    intro id builtin member
    obtain ⟨held, rfl⟩ := (holds.byId id builtin).mp (SortedMap.mem_entries_iff.mp member)
    exact holds.onePlace held
  size := by
    rw [size, SortedMap.size, ← holds.listed.length_eq, SortedMap.items, List.length_map]
  listed := holds.listed.map _
  ordered := holds.ordered

/-- Whatever a registry is offered from its beginning, its indexes agree with each other and with
what it took; a builtin that it refuses changes nothing. -/
theorem registerAll_consistent (offered : List Builtin) :
    Consistent (empty.registerAll offered) (empty.accepted offered) ∧
      ∀ builtin, match (add builtin).run (empty.registerAll offered) with
        | (.ok (), registry) => empty.registerAll (offered ++ [builtin]) = registry ∧
            empty.accepted (offered ++ [builtin]) = empty.accepted offered ++ [builtin]
        | (.error _, registry) => registry = empty.registerAll offered ∧
            empty.registerAll (offered ++ [builtin]) = registry ∧
            empty.accepted (offered ++ [builtin]) = empty.accepted offered := by
  refine ⟨(holds_registerAll offered).consistent, ?_⟩
  intro builtin
  rw [registerAll_append, accepted_append, registerAll_cons, accepted]
  rcases ran : (add builtin).run (empty.registerAll offered) with ⟨_ | _, registry⟩
  · exact ⟨eq_of_refused ran, rfl, List.append_nil _⟩
  · exact ⟨rfl, rfl⟩

end Registry

end ScriptHost
