import ScriptHost.Proofs.Builtins.CallPaths
import ScriptHost.Proofs.Signature.Builders

/-! A registry refuses a builtin whose signature agrees with itself only for another one that it
holds: one with the same number, a function with the same name, or a method with the same name on
receivers of the same kind. Whatever is made with the builders agrees with itself. -/
namespace ScriptHost.Registry

open Signature (IsFunction IsMethod)

variable {registry : Registry} {held : List Builtin} {builtin : Builtin} {signature : Signature}
  {error : RegistrationError}

/-- What a registry holds that a signature cannot stand beside, and what is then said. Numbers are
compared first. -/
inductive Conflict (registry : Registry) (signature : Signature) : RegistrationError → Prop where
  | id (taken : registry.findById? signature.id = some existing) :
      Conflict registry signature (.duplicateId signature.id existing.signature.name)
  | function (fresh : registry.findById? signature.id = none) (fits : signature.IsFunction name)
      (has : registry.Has existing) (same : existing.signature.IsFunction name) :
      Conflict registry signature (.duplicateName name)
  | method (fresh : registry.findById? signature.id = none) (fits : signature.IsMethod kind name)
      (has : registry.Has existing) (same : existing.signature.IsMethod kind name) :
      Conflict registry signature (.duplicateMethod kind name)

/-- What stands where a signature that agrees with itself would be found is a builtin like it. -/
theorem Holds.conflict_of_refuses (holds : Holds registry held)
    (valid : signature.validate = .ok ()) (refuses : Refuses registry signature error) :
    Conflict registry signature error := by
  cases refuses with
  | invalid fault =>
    rw [valid] at fault
    cases fault
  | id _ taken => exact .id taken
  | @method key _ _ fresh isMethod taken =>
    obtain ⟨existing, member, _, same⟩ := (holds.byMethod _ _).mp taken
    exact .method fresh (methodKey?_eq_some_iff_isMethod.mp isMethod) (holds.has_iff.mpr member)
      (methodKey?_eq_some_iff_isMethod.mp same)
  | function _ fresh isPlain taken =>
    obtain ⟨existing, member, _, same⟩ := (holds.byName _ _).mp taken
    have named := nameKey?_eq_some_iff.mpr ⟨isPlain, rfl⟩
    exact .function fresh ((nameKey?_eq_some_iff_of_valid valid).mp named)
      (holds.has_iff.mpr member)
      ((nameKey?_eq_some_iff_of_valid (holds.valid existing member)).mp same)

theorem Holds.not_conflict_of_free (holds : Holds registry held) (free : registry.Free signature) :
    ¬Conflict registry signature error := by
  intro conflict
  cases conflict with
  | id taken =>
    rw [findById?, free.byId] at taken
    cases taken
  | function _ fits has same =>
    have member := holds.has_iff.mp has
    have named := (nameKey?_eq_some_iff_of_valid (holds.valid _ member)).mpr same
    have taken := (holds.byName _ _).mpr ⟨_, member, rfl, named⟩
    rw [free.byName _ ((nameKey?_eq_some_iff_of_valid free.valid).mpr fits)] at taken
    cases taken
  | method _ fits has same =>
    have key := methodKey?_eq_some_iff_isMethod.mpr same
    have taken := (holds.byMethod _ _).mpr ⟨_, holds.has_iff.mp has, rfl, key⟩
    rw [free.byMethod _ (methodKey?_eq_some_iff_isMethod.mpr fits)] at taken
    cases taken

/-- A builtin whose signature agrees with itself is taken exactly if nothing is in its way. -/
theorem Holds.ends_add_of_valid (holds : Holds registry held)
    (valid : builtin.signature.validate = .ok ()) :
    Ends (Registry.add builtin) registry
      (fun error after => after = registry ∧ Conflict registry builtin.signature error)
      fun _ after => after.Has builtin ∧ ∀ error, ¬Conflict registry builtin.signature error := by
  refine (ends_add registry builtin).imp ?_ ?_
  · rintro error after ⟨same, refuses⟩
    exact ⟨same, holds.conflict_of_refuses valid refuses⟩
  · intro _ after adds
    refine ⟨(holds.add adds).has_iff.mpr (by simp), fun error => ?_⟩
    exact holds.not_conflict_of_free adds.free

/-- Whatever a chain of builder calls begins with and however it goes on, its signature agrees with
itself and declares what the calls ask for; and whatever a registry was offered before, it takes a
builtin with that signature, or is left as it is and tells what it holds that is in the way. -/
theorem built_refused_only_for_conflicts (start : Signature.Start) (steps : List Signature.Step) :
    (start.build steps).Declares start steps ∧
      ∀ offered run, Ends (add ⟨start.build steps, run⟩) (empty.registerAll offered)
        (fun error after => after = empty.registerAll offered ∧
          Conflict (empty.registerAll offered) (start.build steps) error)
        fun _ after => after.Has ⟨start.build steps, run⟩ ∧
          ∀ error, ¬Conflict (empty.registerAll offered) (start.build steps) error := by
  have declares := start.declares_build steps
  exact ⟨declares, fun offered _ => (holds_registerAll offered).ends_add_of_valid declares.valid⟩

end ScriptHost.Registry
