import ScriptHost.Args
import ScriptHost.Registry

/-!
Builtins on types and error values.
-/
namespace ScriptHost.Builtins.Introspection

/-- The type of a value: for a record the name of its declared type, if that is known. -/
def typeOf (env : Environment) : Value → String
  | .record typeIndex _ => (typeIndex.bind env.structName).getD Kind.record.text
  | value => value.typeName

def typeOfValue : Builtin where
  signature := Signature.function ⟨600⟩ "typeOf"
    |>.param "value" .any
    |>.returns .string
  run env args := do
    let value ← Action.ofExcept (Args.any args 0)
    return .finished (.string (typeOf env value))

def makeError : Builtin where
  signature := Signature.function ⟨601⟩ "error"
    |>.param "message" .string
    |>.returns .error
  run _ args := return .finished (.error (← Action.ofExcept (Args.string args 0)))

def errorMessage : Builtin where
  signature := Signature.ofMethod ⟨602⟩ .error "message"
    |>.returns .string
  run _ args := return .finished (.string (← Action.ofExcept (Args.error args 0)))

/-- The builtins on types and errors in the order of their numbers. -/
def all : List Builtin := [typeOfValue, makeError, errorMessage]

end ScriptHost.Builtins.Introspection
