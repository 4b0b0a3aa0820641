import ScriptHost.Value.Heap

/-!
Equality of values. It is structural, looks through references, and takes one reference to be
equal to itself without looking.
-/
namespace ScriptHost

namespace Value

mutual

/-- Equality, with the two kinds of references compared by given functions. -/
def equalVia (dicts : DictRef → DictRef → Bool) (closures : ClosureRef → ClosureRef → Bool) :
    Value → Value → Bool
  | .unit, .unit => true
  | .int first, .int second => first == second
  | .float first, .float second => first.equal second
  | .string first, .string second => first == second
  | .bool first, .bool second => first == second
  | .bytes first, .bytes second => first == second
  | .list first, .list second => equalAllVia dicts closures first second
  | .dict first, .dict second => dicts first second
  | .absent, .absent => true
  | .present first, .present second => equalVia dicts closures first second
  | .closure first, .closure second => closures first second
  | .error first, .error second => first == second
  | .record index first, .record index' second =>
    index == index' && equalAllVia dicts closures first second
  | _, _ => false

/-- Equality item by item. -/
def equalAllVia (dicts : DictRef → DictRef → Bool) (closures : ClosureRef → ClosureRef → Bool) :
    List Value → List Value → Bool
  | [], [] => true
  | first :: rest, second :: rest' =>
    equalVia dicts closures first second && equalAllVia dicts closures rest rest'
  | _, _ => false

end

end Value

/-- Equality of dict entries in key order. -/
def equalEntries (equal : Value → Value → Bool) :
    List (String × Value) → List (String × Value) → Bool
  | [], [] => true
  | (key, item) :: rest, (key', item') :: rest' =>
    key == key' && equal item item' && equalEntries equal rest rest'
  | _, _ => false

namespace Heap

mutual

/-- Whether two dicts are one, or equal in contents when at most `depth` references deep. -/
def sameDict (heap : Heap) : (depth : Nat) → DictRef → DictRef → Bool
  | 0, first, second => first == second
  | depth + 1, first, second => first == second ||
    equalEntries (Value.equalVia (heap.sameDict depth) (heap.sameClosure depth))
      (heap.contents first).entries (heap.contents second).entries

/-- Whether two functions are one, or equal in number and captures. -/
def sameClosure (heap : Heap) : (depth : Nat) → ClosureRef → ClosureRef → Bool
  | 0, first, second => first == second
  | depth + 1, first, second => first == second ||
    ((heap.closure first).function == (heap.closure second).function &&
      Value.equalAllVia (heap.sameDict depth) (heap.sameClosure depth)
        (heap.closure first).captures (heap.closure second).captures)

end

/-- Equality of values. The heap has no longer chain of references than its size, unless some
dict contains itself. -/
def equal (heap : Heap) (first second : Value) : Bool :=
  Value.equalVia (heap.sameDict heap.size) (heap.sameClosure heap.size) first second

end Heap

end ScriptHost
