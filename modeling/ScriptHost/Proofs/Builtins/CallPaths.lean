import ScriptHost.Proofs.Builtins.ArgumentCheck

/-! A builtin can be called by its number, by its name if it is a function, and on its receiver if
it is a method. The name leads to the one builtin that it fits, and so does the method. -/
namespace ScriptHost

namespace Signature

/-- The signature is that of a function with the name. -/
structure IsFunction (signature : Signature) (name : String) : Prop where
  noReceiver : signature.receiver = none
  noMethod : signature.method = none
  named : signature.name = name

/-- The signature is that of a method with the name, on a receiver whose values are of the kind. -/
structure IsMethod (signature : Signature) (kind : Kind) (name : String) : Prop where
  receiver : ∃ type, signature.receiver = some type ∧ type.kind = kind
  named : signature.method = some name

end Signature

namespace Registry

open Signature (IsFunction IsMethod)

/-- The builtin is registered. -/
def Has (registry : Registry) (builtin : Builtin) : Prop :=
  registry.findById? builtin.signature.id = some builtin

/-- What a call comes to that describes its builtin: it is the call by number of the one registered
builtin that the description fits, which checks the arguments and runs; or it fails since the
description fits none. -/
inductive Resolves (registry : Registry) (env : Environment) (args : List Value)
    (fits : Signature → Prop) (missing : BuiltinError) : Action Progress → Prop where
  | found (has : registry.Has builtin) (fit : fits builtin.signature)
      (only : ∀ other, registry.Has other → fits other.signature → other = builtin)
      (called : Called builtin env args (registry.call builtin.signature.id env args)) :
      Resolves registry env args fits missing (registry.call builtin.signature.id env args)
  | missed (none : ∀ builtin, registry.Has builtin → ¬fits builtin.signature) :
      Resolves registry env args fits missing (throw missing)

variable {registry : Registry} {builtin : Builtin} {builtins : List Builtin}

theorem Holds.has_iff (holds : Holds registry builtins) :
    registry.Has builtin ↔ builtin ∈ builtins := by
  rw [Has, findById?, holds.byId]
  exact and_iff_left rfl

theorem nameKey?_eq_some_iff_of_valid {signature : Signature} {name : String}
    (valid : signature.validate = .ok ()) :
    nameKey? signature = some name ↔ signature.IsFunction name := by
  rw [nameKey?_eq_some_iff]
  constructor
  · rintro ⟨plain, named⟩
    obtain ⟨noReceiver, noMethod⟩ := plain_of_methodKey?_eq_none valid plain
    exact ⟨noReceiver, noMethod, named⟩
  · rintro ⟨noReceiver, noMethod, named⟩
    exact ⟨by rw [methodKey?, noReceiver, noMethod], named⟩

theorem methodKey?_eq_some_iff_isMethod {signature : Signature} {kind : Kind} {name : String} :
    methodKey? signature = some ⟨kind, name⟩ ↔ signature.IsMethod kind name := by
  rw [methodKey?_eq_some_iff]
  constructor
  · rintro ⟨type, receiver, same, named⟩
    exact ⟨⟨type, receiver, same⟩, named⟩
  · rintro ⟨⟨type, receiver, same⟩, named⟩
    exact ⟨type, receiver, same, named⟩

theorem Holds.called_of_has (holds : Holds registry builtins) (has : registry.Has builtin)
    (env : Environment) (args : List Value) :
    Called builtin env args (registry.call builtin.signature.id env args) := by
  rw [call, show registry.findById? builtin.signature.id = some builtin from has]
  exact called_of_validate (holds.valid builtin (holds.has_iff.mp has)) env args

section Index

variable {Key : Type} [Ord Key] {index : SortedMap Key BuiltinId}
  {place : Signature → Option Key} {key : Key} {fits : Signature → Prop}

/-- A call through an index that names the builtins which a description fits. -/
theorem Holds.resolves (holds : Holds registry builtins) (names : Names index place builtins)
    (means : ∀ builtin ∈ builtins, place builtin.signature = some key ↔ fits builtin.signature)
    (env : Environment) (args : List Value) (missing : BuiltinError) :
    Resolves registry env args fits missing
      (match (index.find? key).bind registry.findById? with
        | some builtin => builtin.call env args
        | none => throw missing) := by
  -- Whatever fits is named by the index under the key.
  have named : ∀ other, registry.Has other → fits other.signature →
      index.find? key = some other.signature.id := by
    intro other has fit
    have member := holds.has_iff.mp has
    exact (names key _).mpr ⟨other, member, rfl, (means other member).mpr fit⟩
  cases found : index.find? key with
  | none =>
    refine .missed fun other has fit => ?_
    rw [named other has fit] at found
    cases found
  | some id =>
    obtain ⟨builtin, member, rfl, here⟩ := (names key id).mp found
    have has : registry.Has builtin := holds.has_iff.mpr member
    have byNumber : registry.call builtin.signature.id env args = builtin.call env args := by
      rw [call, show registry.findById? builtin.signature.id = some builtin from has]
    rw [Option.bind_some, show registry.findById? builtin.signature.id = some builtin from has]
    dsimp only
    rw [← byNumber]
    refine .found has ((means builtin member).mp here) (fun other otherHas fit => ?_)
      (holds.called_of_has has env args)
    have same := found.symm.trans (named other otherHas fit)
    exact holds.single member other (holds.has_iff.mp otherHas) (Option.some.inj same).symm

end Index

theorem Holds.resolves_name (holds : Holds registry builtins) (env : Environment)
    (args : List Value) (name : String) :
    Resolves registry env args (IsFunction · name) (.unknownBuiltin name)
      (registry.callByName name env args) :=
  holds.resolves holds.byName
    (fun builtin member => nameKey?_eq_some_iff_of_valid (holds.valid builtin member)) env args _

theorem Holds.resolves_method (holds : Holds registry builtins) (env : Environment)
    (receiver : Value) (rest : List Value) (method : String) :
    Resolves registry env (receiver :: rest) (IsMethod · receiver.kind method)
      (.unknownBuiltin s!"{receiver.kind.text}.{method}")
      (registry.callMethod method env (receiver :: rest)) :=
  holds.resolves holds.byMethod (fun _ _ => methodKey?_eq_some_iff_isMethod) env _ _

theorem Holds.isFunction_of_findByName? (holds : Holds registry builtins)
    (found : registry.findByName? name = some builtin) : builtin.signature.IsFunction name := by
  obtain ⟨id, named, byId⟩ := Option.bind_eq_some_iff.mp found
  obtain ⟨other, member, rfl, here⟩ := (holds.byName name id).mp named
  have same : other = builtin :=
    Option.some.inj ((holds.has_iff.mpr member).symm.trans byId)
  exact same ▸ (nameKey?_eq_some_iff_of_valid (holds.valid other member)).mp here

/-- However a registry came about, a call by name is the call by number of the one function with
that name, a call of a method that of the one method with that name on receivers of the kind that
the first argument has, and where there is none the builtin is unknown. No name leads to a
method. -/
theorem call_paths_agree (offered : List Builtin) (env : Environment) :
    (∀ name args, Resolves (empty.registerAll offered) env args (IsFunction · name)
        (.unknownBuiltin name) ((empty.registerAll offered).callByName name env args)) ∧
      (∀ name builtin, (empty.registerAll offered).findByName? name = some builtin →
        builtin.signature.isMethod = false) ∧
      (∀ method, (empty.registerAll offered).callMethod method env [] =
        throw (.arity method 1 0)) ∧
      ∀ method receiver rest, Resolves (empty.registerAll offered) env (receiver :: rest)
        (IsMethod · receiver.kind method) (.unknownBuiltin s!"{receiver.kind.text}.{method}")
        ((empty.registerAll offered).callMethod method env (receiver :: rest)) := by
  have holds := holds_registerAll offered
  refine ⟨fun name args => holds.resolves_name env args name, ?_, fun _ => rfl,
    fun method receiver rest => holds.resolves_method env receiver rest method⟩
  intro name builtin found
  rw [Signature.isMethod, (holds.isFunction_of_findByName? found).noReceiver]
  rfl

end Registry

/-! Methods are found by the kind of a value, and no value is of the kind of any value at all. -/

theorem Value.kind_ne_any (value : Value) : value.kind ≠ .any := by
  cases value <;> nofun

theorem TypeDesc.kind_eq_any_iff {type : TypeDesc} : type.kind = .any ↔ type = .any := by
  cases type <;> simp [kind]

theorem TypeDesc.accepts_iff {type : TypeDesc} {value : Value} :
    type.accepts value = true ↔ type = .any ∨ value.kind = type.kind := by
  rw [accepts, Bool.or_eq_true, beq_iff_eq, beq_iff_eq, kind_eq_any_iff]

/-- A signature with a receiver accepts no call without a first argument, and takes that for its
receiver. -/
theorem Signature.exists_receiver_of_checkArgs {signature : Signature} {type : TypeDesc}
    (valid : signature.validate = .ok ()) (receiver : signature.receiver = some type)
    (checked : signature.checkArgs args = .ok ()) :
    ∃ value rest, args = value :: rest ∧ type.accepts value = true := by
  obtain ⟨_, types, ⟨type', _, receiver', _, first⟩ | ⟨noReceiver, _⟩⟩ :=
    validate_eq_ok_iff.mp valid
  · obtain rfl : type = type' := Option.some.inj (receiver.symm.trans receiver')
    obtain ⟨more, typed⟩ := List.head?_eq_some_iff.mp first
    obtain ⟨counted, accepted⟩ := fits_of_checkArgs checked
    cases args with
    | nil =>
      rw [typed, List.length_cons, ← counted] at types
      cases types
    | cons value rest =>
      refine ⟨value, rest, rfl, accepted (type, value) ?_⟩
      rw [typed]
      exact .head _
  · rw [receiver] at noReceiver
    cases noReceiver

namespace Registry

/-- A call of a registered method with arguments that its signature accepts runs the method, as the
call by its number does, exactly if its receiver is of a type that tells values apart: a method on
values of any type is never found. -/
theorem method_reached_iff (offered : List Builtin) {builtin : Builtin} {type : TypeDesc}
    {method : String} {args : List Value} (has : (empty.registerAll offered).Has builtin)
    (receiver : builtin.signature.receiver = some type)
    (named : builtin.signature.method = some method)
    (checked : builtin.signature.checkArgs args = .ok ()) :
    ((empty.registerAll offered).target? args (.method method) = some builtin ↔ type ≠ .any) ∧
      ∀ env, type ≠ .any →
        (empty.registerAll offered).callMethod method env args = builtin.run env args ∧
          (empty.registerAll offered).call builtin.signature.id env args =
            builtin.run env args := by
  have holds := holds_registerAll offered
  have member := holds.has_iff.mp has
  obtain ⟨value, rest, rfl, accepted⟩ :=
    Signature.exists_receiver_of_checkArgs (holds.valid builtin member) receiver checked
  have place : methodKey? builtin.signature = some ⟨type.kind, method⟩ :=
    methodKey?_eq_some_iff_isMethod.mpr ⟨⟨type, receiver, rfl⟩, named⟩
  have reached : type ≠ .any →
      (empty.registerAll offered).target? (value :: rest) (.method method) = some builtin := by
    intro specific
    have same : value.kind = type.kind := (TypeDesc.accepts_iff.mp accepted).resolve_left specific
    exact target?_method holds member (same ▸ place)
  refine ⟨⟨?_, reached⟩, ?_⟩
  · rintro found rfl
    obtain ⟨id, key, byId⟩ := Option.bind_eq_some_iff.mp found
    obtain ⟨other, otherMember, rfl, elsewhere⟩ := (holds.byMethod _ _).mp key
    obtain rfl : other = builtin :=
      Option.some.inj ((holds.has_iff.mpr otherMember).symm.trans byId)
    have kinds := congrArg MethodKey.receiver (Option.some.inj (elsewhere.symm.trans place))
    exact value.kind_ne_any kinds
  · intro env specific
    have ran : builtin.call env (value :: rest) = builtin.run env (value :: rest) := by
      rw [Builtin.call, checked]
      rfl
    rw [← ran]
    refine ⟨callNamed_of_target (reached specific), ?_⟩
    rw [call, show (empty.registerAll offered).findById? builtin.signature.id = some builtin from has]

/-- A method that gives its arguments back in a list. -/
private def listing (receiver : TypeDesc) : Builtin where
  signature := (Signature.ofMethod ⟨1⟩ receiver "listed").returns (.list .any)
  run _ args := pure (.finished (.list args))

private theorem registerAll_listing (receiver : TypeDesc) :
    empty.registerAll [listing receiver] =
      { byId := SortedMap.empty.insert ⟨1⟩ (listing receiver)
        byMethod := SortedMap.empty.insert ⟨receiver.kind, "listed"⟩ ⟨1⟩ } := by
  have valid : (listing receiver).signature.validate = .ok () :=
    Signature.validate_eq_ok_iff.mpr ⟨rfl, rfl, .inl ⟨receiver, "listed", rfl, rfl, rfl⟩⟩
  simp only [registerAll, List.foldl, add, valid]
  rfl

private theorem has_listing (receiver : TypeDesc) :
    (empty.registerAll [listing receiver]).Has (listing receiver) := by
  rw [registerAll_listing]
  rfl

theorem method_reached_handle :
    let args : List Value := [.bytes [7]]
    let registry := empty.registerAll [listing .handle]
    registry.Has (listing .handle) ∧ (listing .handle).signature.checkArgs args = .ok () ∧
      registry.target? args (.method "listed") = some (listing .handle) ∧
      registry.callMethod "listed" {} args = pure (.finished (.list args)) := by
  intro args registry
  have checked : (listing .handle).signature.checkArgs args = .ok () := rfl
  have reached := method_reached_iff [listing .handle] (has_listing .handle) rfl rfl checked
  exact ⟨has_listing .handle, checked, reached.1.mpr nofun, (reached.2 {} nofun).1⟩

/-- A method on values of any type is registered, its signature accepts a number and it is called by
its own number, but it is not found as a method of what it accepts. -/
theorem method_on_any_not_reached :
    let registry := empty.registerAll [listing .any]
    let args : List Value := [.int 7]
    registry.Has (listing .any) ∧ (listing .any).signature.receiver = some .any ∧
      (listing .any).signature.method = some "listed" ∧
      (listing .any).signature.checkArgs args = .ok () ∧
      registry.call ⟨1⟩ {} args = pure (.finished (.list args)) ∧
      registry.callMethod "listed" {} args = throw (.unknownBuiltin "int.listed") := by
  refine ⟨has_listing .any, rfl, rfl, rfl, ?_, ?_⟩
  · rw [registerAll_listing]
    rfl
  · rw [registerAll_listing]
    rfl

end Registry

end ScriptHost
