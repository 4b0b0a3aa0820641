import ScriptHost.Handle
import ScriptHost.Number.Binary64
import ScriptHost.SortedMap
import ScriptHost.TypeDesc

/-!
Values of the script language. All are plain data but dicts and functions, which live in a heap:
a value holds only a reference, so every copy of a dict sees its changes.
-/
namespace ScriptHost

/-- Where a dict lives. -/
structure DictRef where
  index : Nat
  deriving DecidableEq, Repr

/-- Where a function lives. -/
structure ClosureRef where
  index : Nat
  deriving DecidableEq, Repr

/-- A value of the script language. -/
inductive Value where
  | unit
  | int (number : Int64)
  | float (number : Number.Binary64)
  | string (text : String)
  | bool (truth : Bool)
  | bytes (data : Bytes)
  | list (items : List Value)
  | dict (ref : DictRef)
  /-- An optional without content. -/
  | absent
  /-- An optional with content. -/
  | present (content : Value)
  | closure (ref : ClosureRef)
  | error (message : String)
  /-- Field values in order, with the index of the declared record type if there is one. -/
  | record (typeIndex : Option UInt32) (fields : List Value)
  deriving Inhabited

/-- A function of the program: its number and the values it holds on to. -/
structure Closure where
  function : UInt32
  captures : List Value
  deriving Inhabited

/-- The contents of one dict. -/
abbrev DictMap := SortedMap String Value

namespace Value

/-- The tag of a value. -/
def kind : Value → Kind
  | .unit => .unit
  | .int _ => .int
  | .float _ => .float
  | .string _ => .string
  | .bool _ => .bool
  | .bytes _ => .bytes
  | .list _ => .list
  | .dict _ => .dict
  | .absent | .present _ => .optional
  | .closure _ => .function
  | .error _ => .error
  | .record _ _ => .record

/-- The tag in messages. -/
def typeName (value : Value) : String := value.kind.text

/-- A handle as scripts carry it. -/
def ofHandle (handle : Handle) : Value := .bytes handle.toBytes

/-- An optional value. -/
def ofOption : Option Value → Value
  | none => .absent
  | some content => .present content

/-- A record without a declared type. -/
def ofFields (fields : List Value) : Value := .record none fields

/-- A number that is no larger than what fits. -/
def ofNat (number : Nat) : Value := .int (Int64.ofNat number)

def asInt? : Value → Option Int64
  | .int number => some number
  | _ => none

def asString? : Value → Option String
  | .string text => some text
  | _ => none

def asBytes? : Value → Option Bytes
  | .bytes data => some data
  | _ => none

end Value

/-- Whether a value may stand where the type is declared: only the tag counts. -/
def TypeDesc.accepts (type : TypeDesc) (value : Value) : Bool :=
  type.kind == .any || value.kind == type.kind

end ScriptHost
