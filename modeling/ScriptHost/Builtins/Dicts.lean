import ScriptHost.Args
import ScriptHost.Registry

/-!
Methods of dicts. Setting and removing change the dict in place, seen through every copy.
-/
namespace ScriptHost.Builtins.Dicts

/-- The signature of a method. -/
def method (id : UInt32) (name : String) : Signature := Signature.ofMethod ⟨id⟩ (.dict .any) name

/-- The present contents of the receiver. -/
def receiver (args : List Value) : Action (DictRef × DictMap) := do
  let ref ← Action.ofExcept (Args.dict args 0)
  return (ref, (← get).heap.contents ref)

/-- Replace the contents of a dict. -/
def setContents (ref : DictRef) (map : DictMap) : Action Unit :=
  modify fun world => { world with heap := world.heap.setContents ref map }

def length : Builtin where
  signature := method 1300 "len" |>.returns .int
  run _ args := return .finished (.ofNat (← receiver args).2.size)

def get : Builtin where
  signature := method 1301 "get" |>.param "key" .string |>.returns (.optional .any)
  run _ args := do
    let (_, map) ← receiver args
    return .finished (.ofOption (map.find? (← Action.ofExcept (Args.string args 1))))

def set : Builtin where
  signature := method 1302 "set" |>.param "key" .string |>.param "value" .any
  run _ args := do
    let (ref, map) ← receiver args
    let key ← Action.ofExcept (Args.string args 1)
    setContents ref (map.insert key (← Action.ofExcept (Args.any args 2)))
    return .finished .unit

def remove : Builtin where
  signature := method 1303 "remove" |>.param "key" .string |>.returns (.optional .any)
  run _ args := do
    let (ref, map) ← receiver args
    let key ← Action.ofExcept (Args.string args 1)
    setContents ref (map.erase key)
    return .finished (.ofOption (map.find? key))

def keys : Builtin where
  signature := method 1304 "keys" |>.returns (.list .string)
  run _ args := return .finished (.list ((← receiver args).2.keys.map Value.string))

def has : Builtin where
  signature := method 1305 "has" |>.param "key" .string |>.returns .bool
  run _ args := do
    let (_, map) ← receiver args
    return .finished (.bool (map.contains (← Action.ofExcept (Args.string args 1))))

/-- The methods of dicts in the order of their numbers. -/
def all : List Builtin := [length, get, set, remove, keys, has]

end ScriptHost.Builtins.Dicts
