import ScriptHost.Args
import ScriptHost.Registry

/-!
Methods of lists. Lists never change; `map` and `filter` call a function of the program once per
item from left to right and stop at the first failure.
-/
namespace ScriptHost

/-- Call a function of the program. -/
def Environment.invoke (env : Environment) (ref : ClosureRef) (args : List Value) :
    Action Value := do
  match env.invoker with
  | none => throw (.host (.missingService .closures))
  | some invoker =>
    let world ← get
    let (result, world) := invoker (world.heap.closure ref) args world
    set world
    Action.ofHost result

namespace Builtins.Lists

/-- The results of a function on all items. -/
def mapItems (env : Environment) (ref : ClosureRef) : List Value → Action (List Value)
  | [] => return []
  | item :: rest => do
    let result ← env.invoke ref [item]
    return result :: (← mapItems env ref rest)

/-- The items for which a function gives true. -/
def filterItems (env : Environment) (ref : ClosureRef) : List Value → Action (List Value)
  | [] => return []
  | item :: rest => do
    match ← env.invoke ref [item] with
    | .bool true => return item :: (← filterItems env ref rest)
    | .bool false => filterItems env ref rest
    | other => throw (.host (.callback (.notBool other.typeName)))

/-- The signature of a method. -/
def method (id : UInt32) (name : String) : Signature := Signature.ofMethod ⟨id⟩ (.list .any) name

def length : Builtin where
  signature := method 1200 "len" |>.returns .int
  run _ args := return .finished (.ofNat (← Action.ofExcept (Args.list args 0)).length)

/-- The item at a position, nothing outside the list. -/
def itemAt (items : List Value) (index : Int) : Value :=
  if index < 0 then .absent else .ofOption items[index.toNat]?

def get : Builtin where
  signature := method 1201 "get" |>.param "index" .int |>.returns (.optional .any)
  run _ args := do
    let items ← Action.ofExcept (Args.list args 0)
    return .finished (itemAt items (← Action.ofExcept (Args.int args 1)))

def append : Builtin where
  signature := method 1202 "append" |>.param "value" .any |>.returns (.list .any)
  run _ args := do
    let items ← Action.ofExcept (Args.list args 0)
    return .finished (.list (items ++ [← Action.ofExcept (Args.any args 1)]))

def reverse : Builtin where
  signature := method 1203 "reverse" |>.returns (.list .any)
  run _ args := return .finished (.list (← Action.ofExcept (Args.list args 0)).reverse)

def map : Builtin where
  signature := method 1204 "map"
    |>.param "f" (.function [.any] .any)
    |>.returns (.list .any)
  run env args := do
    let items ← Action.ofExcept (Args.list args 0)
    let ref ← Action.ofExcept (Args.closure args 1)
    return .finished (.list (← mapItems env ref items))

def filter : Builtin where
  signature := method 1205 "filter"
    |>.param "predicate" (.function [.any] .bool)
    |>.returns (.list .any)
  run env args := do
    let items ← Action.ofExcept (Args.list args 0)
    let ref ← Action.ofExcept (Args.closure args 1)
    return .finished (.list (← filterItems env ref items))

/-- The methods of lists in the order of their numbers. -/
def all : List Builtin := [length, get, append, reverse, map, filter]

end Builtins.Lists

end ScriptHost
