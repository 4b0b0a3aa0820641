import ScriptHost.World

/-! What an action leaves behind, whether it fails or gives a result. An action that is put together
from steps is judged step by step. -/
namespace ScriptHost

universe u

variable {Failure State α β : Type u}

/-- The state after an action meets one condition if the action fails, and another if it gives a
result. -/
def Ends (action : ExceptT Failure (StateM State) α) (before : State)
    (fails : Failure → State → Prop) (gives : α → State → Prop) : Prop :=
  match action.run before with
  | (.ok result, after) => gives result after
  | (.error error, after) => fails error after

section

variable {action : ExceptT Failure (StateM State) α} {before : State}
  {fails fails' : Failure → State → Prop} {gives gives' : α → State → Prop}

/-- What holds of every outcome holds of the one that an action has. -/
theorem Ends.intro (failing : ∀ error after, fails error after)
    (giving : ∀ result after, gives result after) : Ends action before fails gives := by
  rw [Ends]
  split
  · exact giving _ _
  · exact failing _ _

theorem Ends.imp (ends : Ends action before fails gives)
    (failing : ∀ error after, fails error after → fails' error after)
    (giving : ∀ result after, gives result after → gives' result after) :
    Ends action before fails' gives' := by
  rw [Ends] at ends ⊢
  split at ends
  · exact giving _ _ ends
  · exact failing _ _ ends

theorem Ends.of_ok (ends : Ends action before fails gives)
    (ran : action.run before = (.ok result, after)) : gives result after := by
  rwa [Ends, ran] at ends

/-- An action comes to what every outcome of it says that it comes to. -/
theorem Ends.run_eq {outcome : Except Failure α × State}
    (ends : Ends action before (fun error after => outcome = (.error error, after))
      fun result after => outcome = (.ok result, after)) : action.run before = outcome := by
  rw [Ends] at ends
  split at ends
  · rename_i ran
    exact ran.trans ends.symm
  · rename_i ran
    exact ran.trans ends.symm

theorem Ends.of_error (ends : Ends action before fails gives)
    (ran : action.run before = (.error error, after)) : fails error after := by
  rwa [Ends, ran] at ends

end

section

variable (before : State) (fails : Failure → State → Prop)

@[simp] theorem ends_pure (result : α) (gives : α → State → Prop) :
    Ends (pure result) before fails gives ↔ gives result before := Iff.rfl

@[simp] theorem ends_throw (error : Failure) (gives : α → State → Prop) :
    Ends (throw error) before fails gives ↔ fails error before := Iff.rfl

@[simp] theorem ends_bind (action : ExceptT Failure (StateM State) α)
    (next : α → ExceptT Failure (StateM State) β) (gives : β → State → Prop) :
    Ends (action >>= next) before fails gives ↔
      Ends action before fails fun result after => Ends (next result) after fails gives := by
  have stepwise : (action >>= next).run before = match action.run before with
      | (.ok result, after) => (next result).run after
      | (.error error, after) => (.error error, after) := by
    change ExceptT.bindCont next (action.run before).1 (action.run before).2 = _
    rcases action.run before with ⟨_ | _, after⟩ <;> rfl
  rw [Ends, Ends, stepwise]
  rcases action.run before with ⟨_ | _, after⟩ <;> rfl

@[simp] theorem ends_map (action : ExceptT Failure (StateM State) α) (change : α → β)
    (gives : β → State → Prop) :
    Ends (change <$> action) before fails gives ↔
      Ends action before fails fun result => gives (change result) := by
  rw [← bind_pure_comp, ends_bind]
  rfl

@[simp] theorem ends_get (gives : State → State → Prop) :
    Ends get before fails gives ↔ gives before before := Iff.rfl

@[simp] theorem ends_set (state : State) (gives : PUnit → State → Prop) :
    Ends (set state) before fails gives ↔ gives .unit state := Iff.rfl

@[simp] theorem ends_modify (change : State → State) (gives : PUnit → State → Prop) :
    Ends (modify change) before fails gives ↔ gives .unit (change before) := Iff.rfl

end

/-! What a check came to before its result was changed. -/

theorem eq_error_of_map_eq_error {check : Except Failure α} {change : α → β} {error : Failure}
    (failed : check.map change = .error error) : check = .error error := by
  cases check with
  | ok result => cases failed
  | error fault => exact congrArg Except.error (Except.error.inj failed)

end ScriptHost
