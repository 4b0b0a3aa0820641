import ScriptHost.TypeDesc

/-!
Signatures of builtins: name, parameters, result, and for methods the receiver. Signatures made
step by step with the builders are consistent; any other is checked when it is registered.
-/
namespace ScriptHost

/-- The number of a builtin. -/
structure BuiltinId where
  number : UInt32
  deriving DecidableEq, Repr, Inhabited

namespace BuiltinId

def text (id : BuiltinId) : String := s!"#{id.number}"

instance : Ord BuiltinId := ⟨compareOn fun id => id.number.toNat⟩

instance : Std.TransOrd BuiltinId :=
  inferInstanceAs (Std.TransCmp (compareOn fun id : BuiltinId => id.number.toNat))

instance : Std.LawfulEqOrd BuiltinId where
  compare_self := Nat.compare_eq_eq.mpr rfl
  eq_of_compare {first second} same := by
    have numbers := UInt32.toNat_inj.mp (Nat.compare_eq_eq.mp same)
    cases first; cases second; simp_all

end BuiltinId

/-- What a caller sees of a builtin. -/
structure Signature where
  id : BuiltinId
  name : String
  arity : Nat
  paramNames : List String
  paramTypes : List TypeDesc
  result : TypeDesc
  receiver : Option TypeDesc
  method : Option String
  deriving DecidableEq, Repr, Inhabited

/-- Why a builtin cannot be registered. -/
inductive RegistrationError where
  | paramNames (name : String) (arity names : Nat)
  | paramTypes (name : String) (arity types : Nat)
  | receiverMismatch (name : String) (receiver : TypeDesc)
  | incompleteMethod (name : String)
  | duplicateId (id : BuiltinId) (existing : String)
  | duplicateName (name : String)
  | duplicateMethod (receiver : Kind) (method : String)
  deriving DecidableEq, Repr

def RegistrationError.message : RegistrationError → String
  | .paramNames name arity names => s!"{name}: {names} parameter name(s) for arity {arity}"
  | .paramTypes name arity types => s!"{name}: {types} parameter type(s) for arity {arity}"
  | .receiverMismatch name receiver =>
    s!"{name}: first parameter must have receiver type {receiver.text}"
  | .incompleteMethod name => s!"{name}: a receiver type requires a method name and vice versa"
  | .duplicateId id existing => s!"builtin id {id.text} already registered as {existing}"
  | .duplicateName name => s!"builtin name {name} already registered"
  | .duplicateMethod receiver method => s!"method {receiver.text}.{method} already registered"

namespace Signature

/-- A function without parameters that gives nothing. -/
def function (id : BuiltinId) (name : String) : Signature :=
  { id, name, arity := 0, paramNames := [], paramTypes := [], result := .unit, receiver := none,
    method := none }

/-- Add a parameter behind the others. -/
def param (signature : Signature) (name : String) (type : TypeDesc) : Signature :=
  { signature with
    paramNames := signature.paramNames ++ [name]
    paramTypes := signature.paramTypes ++ [type]
    arity := signature.paramNames.length + 1 }

/-- Give a result of another type. -/
def returns (signature : Signature) (type : TypeDesc) : Signature :=
  { signature with result := type }

/-- A method whose only parameter is its receiver. -/
def ofMethod (id : BuiltinId) (receiver : TypeDesc) (method : String) : Signature :=
  { function id (receiver.kind.text ++ "." ++ method) with
    receiver := some receiver
    method := some method }.param "self" receiver

def isMethod (signature : Signature) : Bool := signature.receiver.isSome

/-- The parameters with their types. -/
def params (signature : Signature) : List (String × TypeDesc) :=
  signature.paramNames.zip signature.paramTypes

/-- The signature on one line. -/
def text (signature : Signature) : String :=
  let params := signature.params.map fun (name, type) => name ++ ": " ++ type.text
  signature.name ++ "(" ++ ", ".intercalate params ++ ") -> " ++ signature.result.text

/-- Check that a signature agrees with itself. -/
def validate (signature : Signature) : Except RegistrationError Unit :=
  if signature.paramNames.length ≠ signature.arity then
    .error (.paramNames signature.name signature.arity signature.paramNames.length)
  else if signature.paramTypes.length ≠ signature.arity then
    .error (.paramTypes signature.name signature.arity signature.paramTypes.length)
  else match signature.receiver, signature.method with
    | some receiver, some _ =>
      if signature.paramTypes.head? = some receiver then .ok ()
      else .error (.receiverMismatch signature.name receiver)
    | none, none => .ok ()
    | _, _ => .error (.incompleteMethod signature.name)

end Signature

end ScriptHost
