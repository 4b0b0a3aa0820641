import ScriptHost.Proofs.Builtins.Standard

/-! What a call of a standard builtin gives is of the declared type in every part, whatever the
system, the peers and the functions of the program do. -/
namespace ScriptHost

open Builtins

/-- Each attempt gives a value of the declared type or waits for one. -/
def Builtin.Typed (builtin : Builtin) : Prop := ∀ env args before,
  Ends (builtin.run env args) before (fun _ _ => True)
    (Progress.Meets (fun value after => after.heap.conforms builtin.signature.result value = true)
      fun call _ => call.result = builtin.signature.result)

theorem Builtin.Regular.typed {builtin : Builtin} (regular : builtin.Regular) : builtin.Typed :=
  fun env args before => (regular env args before).imp (fun _ _ _ => trivial)
    (Progress.Meets.imp (fun _ _ gives => gives.2) fun _ _ waits => waits.2.2)

/-- A builtin that gives a list after calling functions of the program. -/
theorem ends_list {items : Action (List Value)} :
    Ends (do return .finished (.list (← items))) before (fun _ _ => True)
      (Progress.Meets (fun value after => after.heap.conforms (.list .any) value = true)
        fun call _ => call.result = .list .any) := by
  rw [ends_bind]
  exact .intro (fun _ _ => trivial) fun _ _ =>
    Heap.conforms_list fun item _ => Heap.conforms_any item

theorem typed_of_special (special : Special builtin) : builtin.Typed := by
  intro env args before
  cases special with
  | respond =>
    exact (Http.ends_respond env args before).imp (fun _ _ _ => trivial)
      (Progress.Meets.imp (fun _ _ gives => gives.2) fun _ _ waits => waits.2.2)
  | set =>
    refine (Dicts.ends_set env args before).imp (fun _ _ _ => trivial) ?_
    rintro progress after ⟨ref, key, value, _, _, _, rfl, _⟩
    rfl
  | remove =>
    refine (Dicts.ends_remove env args before).imp (fun _ _ _ => trivial) ?_
    rintro progress after ⟨ref, key, _, _, rfl, _⟩
    exact Heap.conforms_ofOption fun value _ => Heap.conforms_any value
  | map =>
    refine ends_check (fun _ => trivial) ?_
    intro items _
    refine ends_check (fun _ => trivial) ?_
    intro ref _
    exact ends_list
  | filter =>
    refine ends_check (fun _ => trivial) ?_
    intro items _
    refine ends_check (fun _ => trivial) ?_
    intro ref _
    exact ends_list

theorem typed_of_standard (member : builtin ∈ standardBuiltins) : builtin.Typed := by
  by_cases special : Special builtin
  · exact typed_of_special special
  · exact (regular_of_standard member special).typed

/-- If every attempt gives a value of the declared type or waits for one, so does the whole call. -/
theorem Registry.Holds.value_conforms {registry : Registry}
    (holds : Registry.Holds registry builtins) (typed : ∀ builtin ∈ builtins, builtin.Typed)
    (returned : Returns meanwhile env (registry.callNamed env args callee) before (.ok value)
      after) :
    ∃ builtin, registry.target? args callee = some builtin ∧
      after.heap.conforms builtin.signature.result value = true := by
  cases found : registry.target? args callee with
  | none =>
    obtain ⟨error, thrown, _⟩ := Registry.callNamed_of_no_target env found
    rw [thrown] at returned
    have impossible := returned.meets (fun _ _ => True) (fun _ _ => False)
      (fun _ _ => False) ((ends_throw ..).mpr trivial) fun _ _ _ waits _ => waits.elim
    exact impossible.elim
  | some builtin =>
    rw [Registry.callNamed_of_target found, Builtin.call] at returned
    refine ⟨builtin, rfl, returned.meets (fun _ _ => True)
      (fun value after => after.heap.conforms builtin.signature.result value = true)
      (fun call _ => call.result = builtin.signature.result)
      (ends_check (fun _ => trivial) fun _ _ =>
        typed builtin (Registry.mem_of_target holds found) env args before) ?_⟩
    intro call between later waits _
    refine (call.advances env later).imp (fun _ _ _ => trivial) (Progress.Meets.imp ?_ ?_)
    · exact fun value after gives => waits ▸ gives.2
    · exact fun later after goesOn => goesOn.2.2.trans waits

/-- However others change the world while a call waits, the value that it gives in the end is of the
type that the builtin declares, in every part. -/
theorem conforms_of_returns {meanwhile : World → World → Prop}
    (returned : Returns meanwhile env (standardRegistry.callNamed env args callee) before
      (.ok value) after) :
    ∃ builtin, standardRegistry.target? args callee = some builtin ∧
      after.heap.conforms builtin.signature.result value = true :=
  holds_standardRegistry.value_conforms (fun _ => typed_of_standard) returned

/-- The keys of a dict are a list of strings. -/
theorem conforms_of_returns_keys :
    let heap : Heap := { dicts := #[SortedMap.empty.insert "key" .unit] }
    let keys : Value := .list [.string "key"]
    Returns (fun _ _ => False) {} (standardRegistry.callNamed {} [.dict ⟨0⟩] (.method "keys"))
        { heap } (.ok keys) { heap } ∧
      ∃ builtin, standardRegistry.target? [.dict ⟨0⟩] (.method "keys") = some builtin ∧
        heap.conforms builtin.signature.result keys = true := by
  intro heap keys
  have member : Dicts.keys ∈ standardBuiltins := by simp [standardBuiltins, Dicts.all]
  have found : standardRegistry.target? [.dict ⟨0⟩] (.method "keys") = some Dicts.keys :=
    Registry.target?_method holds_standardRegistry member rfl
  have returned : Returns (fun _ _ => False) {}
      (standardRegistry.callNamed {} [.dict ⟨0⟩] (.method "keys")) { heap } (.ok keys)
      { heap } := by
    rw [Registry.callNamed_of_target found]
    exact .finishes rfl
  exact ⟨returned, conforms_of_returns returned⟩

end ScriptHost
