/-!
Kinds classify values by their tag alone. Method calls are dispatched on them, so they are ordered
as map keys.
-/
namespace ScriptHost

/-- The tag of a value, or any tag at all. -/
inductive Kind where
  | any
  | unit
  | int
  | float
  | string
  | bool
  | bytes
  | list
  | dict
  | optional
  | function
  | error
  | record
  deriving DecidableEq, Repr

namespace Kind

/-- The kinds in their order as map keys. -/
def all : List Kind :=
  [.any, .unit, .int, .float, .string, .bool, .bytes, .list, .dict, .optional, .function, .error,
    .record]

/-- The place in that order. -/
def rank : Kind → Nat
  | .any => 0
  | .unit => 1
  | .int => 2
  | .float => 3
  | .string => 4
  | .bool => 5
  | .bytes => 6
  | .list => 7
  | .dict => 8
  | .optional => 9
  | .function => 10
  | .error => 11
  | .record => 12

/-- The name in signatures and messages. -/
def text : Kind → String
  | .any => "any"
  | .unit => "unit"
  | .int => "int"
  | .float => "float"
  | .string => "string"
  | .bool => "bool"
  | .bytes => "bytes"
  | .list => "list"
  | .dict => "dict"
  | .optional => "optional"
  | .function => "function"
  | .error => "error"
  | .record => "record"

/-- The name in exchanged data, where strings are called by their short name. -/
def code : Kind → String
  | .string => "str"
  | kind => kind.text

/-- The kind of a name in exchanged data. -/
def ofCode? (code : String) : Option Kind := all.find? (·.code == code)

theorem rank_injective {first second : Kind} (same : first.rank = second.rank) :
    first = second := by
  cases first <;> cases second <;> first | rfl | simp [rank] at same

instance : Ord Kind := ⟨compareOn rank⟩

instance : Std.TransOrd Kind := inferInstanceAs (Std.TransCmp (compareOn rank))

instance : Std.LawfulEqOrd Kind where
  compare_self := Nat.compare_eq_eq.mpr rfl
  eq_of_compare same := rank_injective (Nat.compare_eq_eq.mp same)

end Kind

end ScriptHost
