import ScriptHost.Signature
import ScriptHost.World

/-!
Builtins and the registry that finds them by number, by name, or by receiver kind and method name.
A registration that fails is told why.
-/
namespace ScriptHost

/-- What a builtin does once its arguments are checked. -/
abbrev Implementation := Environment → List Value → Action Progress

/-- A builtin: its signature and what it does. -/
structure Builtin where
  signature : Signature
  run : Implementation

instance : Inhabited Builtin := ⟨⟨default, fun _ _ => pure (.finished .unit)⟩⟩

namespace Signature

/-- The first argument whose tag does not fit its parameter. -/
def firstMismatch? (signature : Signature) (args : List Value) :
    Option (Nat × TypeDesc × Value) :=
  ((signature.paramTypes.zip args).zipIdx.find? fun pair => !pair.1.1.accepts pair.1.2).map
    fun pair => (pair.2, pair.1.1, pair.1.2)

/-- Check the number of arguments and then their tags, in order. -/
def checkArgs (signature : Signature) (args : List Value) : Except BuiltinError Unit :=
  if args.length ≠ signature.arity then
    .error (.arity signature.name signature.arity args.length)
  else match signature.firstMismatch? args with
    | some (index, expected, value) =>
      .error (.typeMismatch signature.name index (signature.paramNames.getD index "") expected
        value.typeName)
    | none => .ok ()

end Signature

/-- Check the arguments and run. -/
def Builtin.call (builtin : Builtin) (env : Environment) (args : List Value) : Action Progress := do
  Action.ofExcept (builtin.signature.checkArgs args)
  builtin.run env args

/-- What methods are found by. -/
structure MethodKey where
  receiver : Kind
  method : String
  deriving DecidableEq, Repr

namespace MethodKey

instance : Ord MethodKey :=
  ⟨compareLex (compareOn (·.receiver)) (compareOn (·.method))⟩

instance : Std.TransOrd MethodKey :=
  inferInstanceAs (Std.TransCmp (compareLex (compareOn MethodKey.receiver)
    (compareOn MethodKey.method)))

end MethodKey

/-- All builtins under three indexes. -/
structure Registry where
  byId : SortedMap BuiltinId Builtin := SortedMap.empty
  byName : SortedMap String BuiltinId := SortedMap.empty
  byMethod : SortedMap MethodKey BuiltinId := SortedMap.empty

instance : Inhabited Registry := ⟨{}⟩

namespace Registry

/-- The registry without builtins. -/
def empty : Registry := {}

/-- What a signature is found by: a method by its receiver's kind, anything else by its name. -/
def methodKey? (signature : Signature) : Option MethodKey :=
  match signature.receiver, signature.method with
  | some receiver, some method => some ⟨receiver.kind, method⟩
  | _, _ => none

/-- Add a builtin. What is changed before a failure stays changed. -/
def add (builtin : Builtin) : ExceptT RegistrationError (StateM Registry) Unit := do
  let signature := builtin.signature
  match signature.validate with
  | .error error => throw error
  | .ok () => pure ()
  if let some existing := (← get).byId.find? signature.id then
    throw (.duplicateId signature.id existing.signature.name)
  match methodKey? signature with
  | some key =>
    if (← get).byMethod.contains key then throw (.duplicateMethod key.receiver key.method)
    modify fun registry =>
      { registry with byMethod := registry.byMethod.insert key signature.id }
  | none =>
    if (← get).byName.contains signature.name then throw (.duplicateName signature.name)
    modify fun registry =>
      { registry with byName := registry.byName.insert signature.name signature.id }
  modify fun registry => { registry with byId := registry.byId.insert signature.id builtin }

/-- The registry with one more builtin, or why it cannot be added. -/
def register (registry : Registry) (builtin : Builtin) : Except RegistrationError Registry :=
  match (add builtin).run registry with
  | (.ok (), registry) => .ok registry
  | (.error error, _) => .error error

/-- Add builtins one after another, whether each of them can be added or not. -/
def registerAll (registry : Registry) (builtins : List Builtin) : Registry :=
  builtins.foldl (fun registry builtin => ((add builtin).run registry).2) registry

def findById? (registry : Registry) (id : BuiltinId) : Option Builtin := registry.byId.find? id

def findByName? (registry : Registry) (name : String) : Option Builtin :=
  (registry.byName.find? name).bind registry.findById?

def findMethod? (registry : Registry) (receiver : Kind) (method : String) : Option Builtin :=
  (registry.byMethod.find? ⟨receiver, method⟩).bind registry.findById?

/-- All signatures in the order of their numbers. -/
def signatures (registry : Registry) : List Signature := registry.byId.items.map (·.signature)

def size (registry : Registry) : Nat := registry.byId.size

/-- Call a builtin by its number. -/
def call (registry : Registry) (id : BuiltinId) (env : Environment) (args : List Value) :
    Action Progress :=
  match registry.findById? id with
  | some builtin => builtin.call env args
  | none => throw (.unknownBuiltin id.text)

/-- Call a function by its name; methods are not found so. -/
def callByName (registry : Registry) (name : String) (env : Environment) (args : List Value) :
    Action Progress :=
  match registry.findByName? name with
  | some builtin => builtin.call env args
  | none => throw (.unknownBuiltin name)

/-- Call a method on the first argument. -/
def callMethod (registry : Registry) (method : String) (env : Environment) (args : List Value) :
    Action Progress :=
  match args with
  | [] => throw (.arity method 1 0)
  | receiver :: _ =>
    match registry.findMethod? receiver.kind method with
    | some builtin => builtin.call env args
    | none => throw (.unknownBuiltin s!"{receiver.kind.text}.{method}")

end Registry

end ScriptHost
