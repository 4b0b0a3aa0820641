import ScriptHost.Value.Heap

/-! Types as readers of a signature take them: they say something of every part of a value, not of
its tag alone. Dicts count with the contents that they have in a heap. -/
namespace ScriptHost

mutual

/-- Whether a value is of a type in every part. -/
def Heap.conforms (heap : Heap) : TypeDesc → Value → Bool
  | .any, _ => true
  | .handle, .bytes data => data.length == 8 && data.any (· != 0)
  | .list item, .list items => items.all (heap.conforms item)
  | .dict item, .dict ref => (heap.contents ref).items.all (heap.conforms item)
  | .optional _, .absent => true
  | .optional content, .present value => heap.conforms content value
  | .shape fields, .record none values => heap.fieldsConform fields values
  | .handle, _ | .list _, _ | .dict _, _ | .optional _, _ | .shape _, _ => false
  | type, value => value.kind == type.kind

/-- Whether there is a value for each field, of the type of that field. -/
def Heap.fieldsConform (heap : Heap) : List (String × TypeDesc) → List Value → Bool
  | [], [] => true
  | (_, type) :: fields, value :: values =>
    heap.conforms type value && heap.fieldsConform fields values
  | _, _ => false

end

/-- Every dict keeps its contents; there may be more of them. -/
structure Heap.Extends (before after : Heap) : Prop where
  size : before.dicts.size ≤ after.dicts.size
  contents : ∀ ref, ref.index < before.dicts.size → after.contents ref = before.contents ref

namespace Heap

variable {heap : Heap} {type : TypeDesc} {value : Value}

theorem conforms_any (value : Value) : heap.conforms .any value = true := by
  simp [conforms]

theorem conforms_list {items : List Value}
    (each : ∀ item ∈ items, heap.conforms type item = true) :
    heap.conforms (.list type) (.list items) = true := by
  rw [conforms]
  exact List.all_eq_true.mpr each

theorem conforms_strings (texts : List String) :
    heap.conforms (.list .string) (.list (texts.map Value.string)) = true := by
  refine conforms_list fun item member => ?_
  obtain ⟨text, _, rfl⟩ := List.mem_map.mp member
  rfl

theorem conforms_newDict {map : DictMap}
    (each : ∀ item ∈ map.items, (heap.newDict map).2.conforms type item = true) :
    (heap.newDict map).2.conforms (.dict type) (.dict (heap.newDict map).1) = true := by
  rw [conforms, contents_newDict]
  exact List.all_eq_true.mpr each

theorem conforms_ofOption {content : Option Value}
    (inner : ∀ value ∈ content, heap.conforms type value = true) :
    heap.conforms (.optional type) (.ofOption content) = true := by
  cases content with
  | none => rfl
  | some value => exact inner value rfl

/-- Bytes that carry a handle are not all zero. -/
theorem conforms_ofHandle (handle : Handle) : heap.conforms .handle (.ofHandle handle) = true := by
  have length : handle.toBytes.length = 8 := length_littleEndianBytes 8 handle.id
  have notZero : handle.toBytes.any (· != 0) = true := by
    refine Bool.of_not_eq_false fun zeros => ?_
    have zeros : ∀ byte ∈ handle.toBytes, byte = 0 := by simpa using zeros
    have number := littleEndian_littleEndianBytes 8 handle.id
    rw [← Handle.toBytes, List.eq_replicate_of_mem zeros, length] at number
    have large := handle.id_pos
    have small : handle.id < Nat.pow 256 8 := handle.id_lt
    rw [Nat.mod_eq_of_lt small] at number
    exact absurd number (Nat.ne_of_lt large)
  simp [Value.ofHandle, conforms, length, notZero]

theorem Extends.refl (heap : Heap) : heap.Extends heap := ⟨Nat.le_refl _, fun _ _ => rfl⟩

theorem extends_newDict (heap : Heap) (map : DictMap) : heap.Extends (heap.newDict map).2 where
  size := by simp [newDict]
  contents ref live := by
    simp [newDict, contents, Array.getElem?_push, Nat.ne_of_lt live]

end Heap

end ScriptHost
