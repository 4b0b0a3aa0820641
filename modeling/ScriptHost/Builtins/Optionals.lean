import ScriptHost.Args
import ScriptHost.Registry

/-!
Methods of optionals.
-/
namespace ScriptHost.Builtins.Optionals

/-- The signature of a method. -/
def method (id : UInt32) (name : String) : Signature :=
  Signature.ofMethod ⟨id⟩ (.optional .any) name

def isSome : Builtin where
  signature := method 1400 "isSome" |>.returns .bool
  run _ args := return .finished (.bool (← Action.ofExcept (Args.optional args 0)).isSome)

def unwrapOr : Builtin where
  signature := method 1401 "unwrapOr" |>.param "default" .any |>.returns .any
  run _ args := do
    let content ← Action.ofExcept (Args.optional args 0)
    let default ← Action.ofExcept (Args.any args 1)
    return .finished (content.getD default)

/-- The methods of optionals in the order of their numbers. -/
def all : List Builtin := [isSome, unwrapOr]

end ScriptHost.Builtins.Optionals
