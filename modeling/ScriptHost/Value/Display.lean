import ScriptHost.Number.Shortest
import ScriptHost.Value.Heap

/-!
The text of a value as programs print it. Strings stand bare, bytes by their number, functions by
theirs.
-/
namespace ScriptHost

namespace Value

mutual

/-- The text of a value, with references shown by given functions. -/
def textVia (dict : DictRef → String) (closure : ClosureRef → String) : Value → String
  | .unit => "()"
  | .int number => toString number.toInt
  | .float number => number.text
  | .string text => text
  | .bool truth => if truth then "true" else "false"
  | .bytes data => s!"<bytes:{data.length}>"
  | .list items => "[" ++ ", ".intercalate (textsVia dict closure items) ++ "]"
  | .dict ref => dict ref
  | .absent => "none"
  | .present content => "some(" ++ textVia dict closure content ++ ")"
  | .closure ref => closure ref
  | .error message => s!"error({message})"
  | .record _ fields => "(" ++ ", ".intercalate (textsVia dict closure fields) ++ ")"

def textsVia (dict : DictRef → String) (closure : ClosureRef → String) : List Value → List String
  | [] => []
  | item :: rest => textVia dict closure item :: textsVia dict closure rest

end

end Value

namespace Heap

/-- The text of a function. -/
def closureText (heap : Heap) (ref : ClosureRef) : String :=
  s!"<fn:{(heap.closure ref).function}>"

/-- The text of a dict, its keys in order, when at most `depth` references deep. -/
def dictText (heap : Heap) : (depth : Nat) → DictRef → String
  | 0, _ => "\x7b\x7d"
  | depth + 1, ref =>
    let entry := fun pair : String × Value =>
      pair.1 ++ ": " ++ Value.textVia (heap.dictText depth) heap.closureText pair.2
    "\x7b" ++ ", ".intercalate ((heap.contents ref).entries.map entry) ++ "\x7d"

/-- The text of a value. -/
def text (heap : Heap) (value : Value) : String :=
  Value.textVia (heap.dictText heap.size) heap.closureText value

end Heap

end ScriptHost
