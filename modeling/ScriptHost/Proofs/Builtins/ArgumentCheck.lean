import ScriptHost.Proofs.Builtins.Calls

/-! How a call is checked before a builtin runs: by the number of its arguments, and then by their
tags from left to right. -/
namespace ScriptHost

variable {signature : Signature} {args : List Value}

namespace Signature

/-- The argument at a position has a tag that its parameter accepts. -/
def FitsAt (signature : Signature) (args : List Value) (index : Nat) : Prop :=
  ∃ type value, signature.paramTypes[index]? = some type ∧ args[index]? = some value ∧
    type.accepts value = true

/-- There is one argument for each parameter, with a tag that the parameter accepts. -/
structure Fits (signature : Signature) (args : List Value) : Prop where
  counted : args.length = signature.arity
  tagged : ∀ index < signature.paramTypes.length, signature.FitsAt args index

/-- The parameter at a position does not accept the tag of its argument, and is the first. -/
structure Refuses (signature : Signature) (args : List Value) (index : Nat) (type : TypeDesc)
    (value : Value) : Prop where
  typed : signature.paramTypes[index]? = some type
  given : args[index]? = some value
  refused : type.accepts value = false
  first : ∀ earlier < index, signature.FitsAt args earlier

private theorem pair_at {index : Nat} (inside : index < (signature.paramTypes.zip args).length) :
    signature.paramTypes[index]? = some (signature.paramTypes.zip args)[index].1 ∧
      args[index]? = some (signature.paramTypes.zip args)[index].2 :=
  List.getElem?_zip_eq_some.mp (List.getElem?_eq_getElem inside)

theorem refuses_of_firstMismatch? {index : Nat} {type : TypeDesc} {value : Value}
    (found : signature.firstMismatch? args = some (index, type, value)) :
    signature.Refuses args index type value := by
  obtain ⟨⟨pair, position⟩, least, same⟩ := Option.map_eq_some_iff.mp found
  cases same
  obtain ⟨refused, place, bound, there, earlier⟩ := List.find?_eq_some_iff_getElem.mp least
  rw [List.length_zipIdx] at bound
  rw [List.getElem_zipIdx, Nat.zero_add] at there
  obtain ⟨rfl, rfl⟩ := Prod.mk.inj there
  refine ⟨(pair_at bound).1, (pair_at bound).2, by simpa using refused, ?_⟩
  intro before isBefore
  have inside := Nat.lt_trans isBefore bound
  have accepted := earlier before isBefore
  rw [List.getElem_zipIdx] at accepted
  exact ⟨_, _, (pair_at inside).1, (pair_at inside).2, by simpa using accepted⟩

/-- Arguments that pass the check are as many as the parameters, each with the tag of its
parameter. -/
theorem fits_of_checkArgs (checked : signature.checkArgs args = .ok ()) :
    args.length = signature.arity ∧
      ∀ pair ∈ signature.paramTypes.zip args, pair.1.accepts pair.2 = true := by
  rw [checkArgs] at checked
  split at checked
  · cases checked
  · rename_i arity
    split at checked
    · cases checked
    · rename_i fits
      refine ⟨Decidable.of_not_not arity, fun pair member => ?_⟩
      obtain ⟨index, there⟩ := List.mem_iff_getElem?.mp member
      have none := List.find?_eq_none.mp (Option.map_eq_none_iff.mp fits) (pair, index)
        (List.mem_zipIdx_iff_getElem?.mpr there)
      simpa using none

theorem Fits.of_checkArgs (valid : signature.validate = .ok ())
    (checked : signature.checkArgs args = .ok ()) : signature.Fits args := by
  obtain ⟨_, types, _⟩ := validate_eq_ok_iff.mp valid
  obtain ⟨counted, accepted⟩ := fits_of_checkArgs checked
  refine ⟨counted, fun index inside => ?_⟩
  have bound : index < (signature.paramTypes.zip args).length := by
    rw [List.length_zip]
    omega
  exact ⟨_, _, (pair_at bound).1, (pair_at bound).2, accepted _ (List.getElem_mem bound)⟩

end Signature

/-- What a call comes to by what is given: it fails because of the number of arguments, or because
of the first one with a wrong tag, or the builtin runs. -/
inductive Called (builtin : Builtin) (env : Environment) (args : List Value) :
    Action Progress → Prop where
  | miscounted (different : args.length ≠ builtin.signature.arity) :
      Called builtin env args
        (throw (.arity builtin.signature.name builtin.signature.arity args.length))
  | mistyped (counted : args.length = builtin.signature.arity)
      (refuses : builtin.signature.Refuses args index expected value)
      (named : builtin.signature.paramNames[index]? = some param) :
      Called builtin env args
        (throw (.typeMismatch builtin.signature.name index param expected value.typeName))
  | runs (fits : builtin.signature.Fits args) : Called builtin env args (builtin.run env args)

/-- A consistent signature has a name for each parameter, so the check finds the one to report. -/
theorem called_of_validate {builtin : Builtin} (valid : builtin.signature.validate = .ok ())
    (env : Environment) (args : List Value) : Called builtin env args (builtin.call env args) := by
  obtain ⟨names, types, _⟩ := Signature.validate_eq_ok_iff.mp valid
  cases checked : builtin.signature.checkArgs args with
  | ok _ =>
    rw [Builtin.call, checked]
    exact .runs (Signature.Fits.of_checkArgs valid checked)
  | error error =>
    have failed : builtin.call env args = throw error := by
      rw [Builtin.call, checked]
      rfl
    rw [failed]
    rw [Signature.checkArgs] at checked
    split at checked
    · rename_i different
      cases checked
      exact .miscounted different
    · rename_i arity
      split at checked
      · rename_i index expected value mismatch
        cases checked
        have refuses := Signature.refuses_of_firstMismatch? mismatch
        obtain ⟨inside, _⟩ := List.getElem?_eq_some_iff.mp refuses.typed
        have named := List.getElem?_eq_getElem
          (show index < builtin.signature.paramNames.length by omega)
        rw [List.getD_eq_getElem?_getD, named, Option.getD_some]
        exact .mistyped (Decidable.of_not_not arity) refuses named
      · cases checked

end ScriptHost
