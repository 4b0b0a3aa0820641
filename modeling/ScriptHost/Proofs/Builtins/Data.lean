import ScriptHost.Builtins.ByteStrings
import ScriptHost.Builtins.Console
import ScriptHost.Builtins.Dicts
import ScriptHost.Builtins.Introspection
import ScriptHost.Builtins.Lists
import ScriptHost.Builtins.Optionals
import ScriptHost.Builtins.Strings
import ScriptHost.Builtins.Time
import ScriptHost.Proofs.Builtins.Regular

/-! Builtins that compute on their arguments, on the clock and on the console are regular. -/
namespace ScriptHost.Builtins

/-- A builtin that ends with what it computes from one more argument. -/
private theorem ends_compute {check : Except BuiltinError α} {compute : α → Value}
    {type : TypeDesc} (conforms : ∀ result, before.heap.conforms type (compute result) = true) :
    Ends (do return .finished (compute (← Action.ofExcept check))) before (Harmless before)
      (Progress.Meets (Gives type before) (Waits type before)) :=
  ends_check (harmless before) fun result _ => .unchanged (conforms result)

namespace Strings

theorem regular_ofText (id : UInt32) (name : String) {result : TypeDesc} {compute : String → Value}
    (conforms : ∀ heap text, Heap.conforms heap result (compute text) = true) :
    (ofText id name result compute).Regular := fun _ _ before =>
  ends_compute (conforms before.heap)

theorem regular_split : split.Regular := by
  intro env args before
  apply ends_check (harmless before)
  intro text _
  apply ends_check (harmless before)
  intro separator _
  split
  · exact harmless before _
  · exact Gives.unchanged (Heap.conforms_strings _)

theorem regular_contains : contains.Regular := by
  intro env args before
  apply ends_check (harmless before)
  intro text _
  exact ends_compute fun needle => rfl

theorem regular_all : ∀ builtin ∈ all, builtin.Regular := by
  simp only [all, List.forall_mem_cons]
  exact ⟨regular_ofText _ _ fun _ _ => rfl, regular_ofText _ _ fun _ _ => rfl,
    regular_ofText _ _ fun _ _ => rfl, regular_ofText _ _ fun _ _ => rfl, regular_split,
    regular_contains, regular_ofText _ _ fun _ _ => rfl, nofun⟩

end Strings

namespace ByteStrings

theorem regular_length : length.Regular := fun _ _ _ => ends_compute fun _ => rfl

theorem regular_toText : toText.Regular := by
  intro env args before
  apply ends_check (harmless before)
  intro data _
  cases Text.ofBytes data with
  | ok text => exact Gives.unchanged rfl
  | error error => exact harmless before _

theorem regular_slice : slice.Regular := by
  intro env args before
  apply ends_check (harmless before)
  intro data _
  apply ends_check (harmless before)
  intro start _
  apply ends_check (harmless before)
  intro last _
  cases sliceOf data start last with
  | ok part => exact Gives.unchanged rfl
  | error fault => exact harmless before _

theorem regular_concat : concat.Regular := by
  intro env args before
  apply ends_check (harmless before)
  intro first _
  exact ends_compute fun second => rfl

theorem regular_all : ∀ builtin ∈ all, builtin.Regular := by
  simp only [all, List.forall_mem_cons]
  exact ⟨regular_length, regular_toText, regular_slice, regular_concat, nofun⟩

end ByteStrings

namespace Lists

theorem regular_length : length.Regular := fun _ _ _ => ends_compute fun _ => rfl

theorem conforms_itemAt (heap : Heap) (items : List Value) (index : Int) :
    heap.conforms (.optional .any) (itemAt items index) = true := by
  rw [itemAt]
  split
  · rfl
  · exact Heap.conforms_ofOption fun item _ => Heap.conforms_any item

theorem regular_get : get.Regular := by
  intro env args before
  apply ends_check (harmless before)
  intro items _
  exact ends_compute fun index => conforms_itemAt _ items index

theorem regular_append : append.Regular := by
  intro env args before
  apply ends_check (harmless before)
  intro items _
  exact ends_compute fun value => Heap.conforms_list fun item _ => Heap.conforms_any item

theorem regular_reverse : reverse.Regular := fun _ _ _ =>
  ends_compute fun _ => Heap.conforms_list fun item _ => Heap.conforms_any item

/-- The methods that call functions of the program are the exceptions. -/
theorem regular_of_mem (member : builtin ∈ all) (notMap : builtin ≠ map)
    (notFilter : builtin ≠ filter) : builtin.Regular := by
  simp only [all, List.mem_cons, List.not_mem_nil, or_false] at member
  obtain rfl | rfl | rfl | rfl | rfl | rfl := member
  · exact regular_length
  · exact regular_get
  · exact regular_append
  · exact regular_reverse
  · exact absurd rfl notMap
  · exact absurd rfl notFilter

end Lists

namespace Dicts

/-- A method that only looks at its receiver. -/
private theorem ends_receiver {next : DictRef × DictMap → Action β}
    (spared : ∀ error, fails error before)
    (rest : ∀ ref, Args.dict args 0 = .ok ref →
      Ends (next (ref, before.heap.contents ref)) before fails gives) :
    Ends (receiver args >>= next) before fails gives := by
  rw [ends_bind, receiver]
  exact ends_check spared rest

theorem regular_length : length.Regular := fun _ _ before =>
  ends_receiver (harmless before) fun _ _ => .unchanged rfl

theorem regular_get : get.Regular := by
  intro env args before
  apply ends_receiver (harmless before)
  intro ref _
  exact ends_compute fun key => Heap.conforms_ofOption fun value _ => Heap.conforms_any value

theorem regular_keys : keys.Regular := fun _ _ before =>
  ends_receiver (harmless before) fun _ _ => .unchanged (Heap.conforms_strings _)

theorem regular_has : has.Regular := by
  intro env args before
  apply ends_receiver (harmless before)
  intro ref _
  exact ends_compute fun key => rfl

/-- Setting changes one entry of one dict. -/
theorem ends_set (env : Environment) (args : List Value) (before : World) :
    Ends (set.run env args) before (fun _ after => after = before) fun progress after =>
      ∃ ref key value, Args.dict args 0 = .ok ref ∧ Args.string args 1 = .ok key ∧
        Args.any args 2 = .ok value ∧ progress = .finished .unit ∧
        after = { before with
          heap := before.heap.setContents ref ((before.heap.contents ref).insert key value) } := by
  have spared : BuiltinError → before = before := fun _ => rfl
  refine ends_receiver spared ?_
  intro ref isDict
  refine ends_check spared ?_
  intro key isText
  refine ends_check spared ?_
  intro value there
  exact ⟨ref, key, value, isDict, isText, there, rfl, rfl⟩

/-- Removing changes one entry of one dict and gives what was there. -/
theorem ends_remove (env : Environment) (args : List Value) (before : World) :
    Ends (remove.run env args) before (fun _ after => after = before) fun progress after =>
      ∃ ref key, Args.dict args 0 = .ok ref ∧ Args.string args 1 = .ok key ∧
        progress = .finished (.ofOption ((before.heap.contents ref).find? key)) ∧
        after = { before with
          heap := before.heap.setContents ref ((before.heap.contents ref).erase key) } := by
  have spared : BuiltinError → before = before := fun _ => rfl
  refine ends_receiver spared ?_
  intro ref isDict
  refine ends_check spared ?_
  intro key isText
  exact ⟨ref, key, isDict, isText, rfl, rfl⟩

/-- Setting and removing are the exceptions. -/
theorem regular_of_mem (member : builtin ∈ all) (notSet : builtin ≠ set)
    (notRemove : builtin ≠ remove) : builtin.Regular := by
  simp only [all, List.mem_cons, List.not_mem_nil, or_false] at member
  obtain rfl | rfl | rfl | rfl | rfl | rfl := member
  · exact regular_length
  · exact regular_get
  · exact absurd rfl notSet
  · exact absurd rfl notRemove
  · exact regular_keys
  · exact regular_has

end Dicts

namespace Optionals

theorem regular_isSome : isSome.Regular := fun _ _ _ => ends_compute fun _ => rfl

theorem regular_unwrapOr : unwrapOr.Regular := by
  intro env args before
  apply ends_check (harmless before)
  intro content _
  exact ends_compute fun default => Heap.conforms_any _

theorem regular_all : ∀ builtin ∈ all, builtin.Regular := by
  simp only [all, List.forall_mem_cons]
  exact ⟨regular_isSome, regular_unwrapOr, nofun⟩

end Optionals

namespace Introspection

theorem regular_all : ∀ builtin ∈ all, builtin.Regular := by
  simp only [all, List.forall_mem_cons]
  exact ⟨fun _ _ _ => ends_compute fun _ => rfl, fun _ _ _ => ends_compute fun _ => rfl,
    fun _ _ _ => ends_compute fun _ => rfl, nofun⟩

end Introspection

namespace Time

theorem regular_now : now.Regular := fun _ _ _ => .unchanged rfl

theorem regular_sleep : sleep.Regular := by
  intro env args before
  apply ends_check (harmless before)
  intro duration _
  split
  · exact harmless before _
  · exact ⟨.refl _, rfl⟩

theorem regular_all : ∀ builtin ∈ all, builtin.Regular := by
  simp only [all, List.forall_mem_cons]
  exact ⟨regular_now, regular_sleep, nofun⟩

end Time

namespace Console

theorem ends_printVia (write : ScriptHost.Console → String → ScriptHost.Console) (behind : String)
    (env : Environment) (args : List Value) (before : World) :
    Ends (printVia write behind env args) before (Harmless before)
      (Progress.Meets (Gives .unit before) (Waits .unit before)) := by
  apply ends_check (harmless before)
  intro value _
  apply ends_need (harmless before)
  rw [ends_bind, ends_get]
  cases before.console.faults .print with
  | some cause => exact harmless before _
  | none => exact ⟨.refl _, rfl⟩

/-- A line that cannot be read may be lost. -/
theorem regular_readLine : readLine.Regular := by
  intro env args before
  apply ends_need (harmless before)
  rw [ends_bind, ends_get]
  rcases before.console.readLine with ⟨line, console⟩
  rw [ends_bind, ends_set]
  cases line with
  | ok line =>
    refine ⟨.refl _, Heap.conforms_ofOption fun value member => ?_⟩
    obtain ⟨text, _, rfl⟩ := Option.map_eq_some_iff.mp member
    rfl
  | error cause => exact .inr ⟨rfl, rfl, rfl, rfl, rfl⟩

theorem regular_all : ∀ builtin ∈ all, builtin.Regular := by
  simp only [all, List.forall_mem_cons]
  exact ⟨ends_printVia _ _, ends_printVia _ _, ends_printVia _ _, regular_readLine, nofun⟩

end Console

end ScriptHost.Builtins
