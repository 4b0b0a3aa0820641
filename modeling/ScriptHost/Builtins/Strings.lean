import ScriptHost.Args
import ScriptHost.Registry
import ScriptHost.Text.Blank
import ScriptHost.Text.Case
import ScriptHost.Text.Split

/-!
Methods of strings.
-/
namespace ScriptHost.Builtins.Strings

/-- A method that only computes on its receiver. -/
def ofText (id : UInt32) (name : String) (result : TypeDesc) (compute : String → Value) :
    Builtin where
  signature := Signature.ofMethod ⟨id⟩ .string name |>.returns result
  run _ args := return .finished (compute (← Action.ofExcept (Args.string args 0)))

/-- The number of characters. -/
def length : Builtin := ofText 1000 "len" .int fun text => .ofNat text.length

def upper : Builtin := ofText 1001 "upper" .string fun text => .string (Text.upper text)

def lower : Builtin := ofText 1002 "lower" .string fun text => .string (Text.lower text)

def trim : Builtin := ofText 1003 "trim" .string fun text => .string (Text.trim text)

def split : Builtin where
  signature := Signature.ofMethod ⟨1004⟩ .string "split"
    |>.param "sep" .string
    |>.returns (.list .string)
  run _ args := do
    let text ← Action.ofExcept (Args.string args 0)
    let sep ← Action.ofExcept (Args.string args 1)
    if sep.isEmpty then throw (.invalidArgument .emptySeparator)
    return .finished (.list ((Text.split sep text).map Value.string))

def contains : Builtin where
  signature := Signature.ofMethod ⟨1005⟩ .string "contains"
    |>.param "needle" .string
    |>.returns .bool
  run _ args := do
    let text ← Action.ofExcept (Args.string args 0)
    let needle ← Action.ofExcept (Args.string args 1)
    return .finished (.bool (Text.contains needle text))

def toBytes : Builtin := ofText 1006 "toBytes" .bytes fun text => .bytes (Text.toBytes text)

/-- The methods of strings in the order of their numbers. -/
def all : List Builtin := [length, upper, lower, trim, split, contains, toBytes]

end ScriptHost.Builtins.Strings
