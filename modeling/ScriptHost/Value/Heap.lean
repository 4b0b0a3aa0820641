import ScriptHost.Value.Basic

/-!
The heap of dicts and functions. Dicts change in place, functions never do, and nothing is ever
freed. Main statements: writing one dict leaves every other as it was.
-/
namespace ScriptHost

/-- All dicts and functions made so far. -/
structure Heap where
  dicts : Array DictMap := #[]
  closures : Array Closure := #[]
  deriving Inhabited

namespace Heap

/-- The heap of a fresh program. -/
def empty : Heap := {}

/-- The number of things a path of references can pass without passing one twice. -/
def size (heap : Heap) : Nat := heap.dicts.size + heap.closures.size

/-- The present contents of a dict. -/
def contents (heap : Heap) (ref : DictRef) : DictMap :=
  heap.dicts.getD ref.index SortedMap.empty

/-- A function; a reference from elsewhere stands for function zero without captures. -/
def closure (heap : Heap) (ref : ClosureRef) : Closure := heap.closures.getD ref.index ⟨0, []⟩

/-- Make a dict. -/
def newDict (heap : Heap) (map : DictMap) : DictRef × Heap :=
  (⟨heap.dicts.size⟩, { heap with dicts := heap.dicts.push map })

/-- Make a function. -/
def newClosure (heap : Heap) (closure : Closure) : ClosureRef × Heap :=
  (⟨heap.closures.size⟩, { heap with closures := heap.closures.push closure })

/-- Replace the contents of a dict. -/
def setContents (heap : Heap) (ref : DictRef) (map : DictMap) : Heap :=
  { heap with dicts := heap.dicts.setIfInBounds ref.index map }

theorem contents_newDict (heap : Heap) (map : DictMap) :
    (heap.newDict map).2.contents (heap.newDict map).1 = map := by
  simp [newDict, contents]

theorem contents_setContents_of_ne (heap : Heap) {ref other : DictRef} (map : DictMap)
    (different : other ≠ ref) : (heap.setContents ref map).contents other = heap.contents other := by
  have indices : ref.index ≠ other.index := fun same => different (by cases ref; cases other; simp_all)
  simp [setContents, contents, Array.getD_eq_getD_getElem?, indices]

theorem contents_setContents (heap : Heap) {ref : DictRef} (map : DictMap)
    (held : ref.index < heap.dicts.size) : (heap.setContents ref map).contents ref = map := by
  simp [setContents, contents, Array.getD_eq_getD_getElem?, held]

end Heap

end ScriptHost
