import ScriptHost.Args
import ScriptHost.Registry

/-!
Builtins on files.
-/
namespace ScriptHost.Builtins.Files

/-- Run a step of the file service. -/
def step (use : FileService → Disk → Except HostError α × FileService × Disk) : Action α :=
  Action.hostStep (fun world => use world.files world.disk)
    fun world (files, disk) => { world with files, disk }

/-- Run a step on the disk alone. -/
def diskStep (use : Disk → Except HostError Unit × Disk) : Action Unit :=
  Action.hostStep (fun world => use world.disk) fun world disk => { world with disk }

def openFile : Builtin where
  signature := Signature.function ⟨100⟩ "fs.open"
    |>.param "path" .string
    |>.param "mode" .string
    |>.returns .handle
  run env args := do
    let path := env.resolvePath (← Action.ofExcept (Args.string args 0))
    Action.need env.services.files .filesystem
    let mode ← Action.ofExcept (Args.string args 1)
    let handle ← step fun files disk => files.openPath disk path mode
    return .finished (.ofHandle handle)

def read : Builtin where
  signature := Signature.function ⟨101⟩ "fs.read"
    |>.param "handle" .handle
    |>.param "n" .int
    |>.returns .bytes
  run env args := do
    let handle ← Action.ofExcept (Args.handle args 0)
    Action.need env.services.files .filesystem
    let count ← Action.ofExcept (Args.int args 1)
    let data ← step fun files disk => files.read disk handle count
    return .finished (.bytes data)

def write : Builtin where
  signature := Signature.function ⟨102⟩ "fs.write"
    |>.param "handle" .handle
    |>.param "data" .bytes
    |>.returns .int
  run env args := do
    let handle ← Action.ofExcept (Args.handle args 0)
    Action.need env.services.files .filesystem
    let data ← Action.ofExcept (Args.bytes args 1)
    let count ← step fun files disk => files.write disk handle data
    return .finished (.ofNat count)

def close : Builtin where
  signature := Signature.function ⟨103⟩ "fs.close"
    |>.param "handle" .handle
  run env args := do
    Action.need env.services.files .filesystem
    let handle ← Action.ofExcept (Args.handle args 0)
    step fun files disk => files.close disk handle
    return .finished .unit

def pathExists : Builtin where
  signature := Signature.function ⟨104⟩ "fs.exists"
    |>.param "path" .string
    |>.returns .bool
  run env args := do
    let path := env.resolvePath (← Action.ofExcept (Args.string args 0))
    Action.need env.services.files .filesystem
    let found ← Action.ofHost ((← get).disk.pathExists path)
    return .finished (.bool found)

def remove : Builtin where
  signature := Signature.function ⟨105⟩ "fs.remove"
    |>.param "path" .string
  run env args := do
    let path := env.resolvePath (← Action.ofExcept (Args.string args 0))
    Action.need env.services.files .filesystem
    diskStep fun disk => disk.removePath path
    return .finished .unit

def makeDirectory : Builtin where
  signature := Signature.function ⟨106⟩ "fs.mkdir"
    |>.param "path" .string
  run env args := do
    let path := env.resolvePath (← Action.ofExcept (Args.string args 0))
    Action.need env.services.files .filesystem
    diskStep fun disk => disk.makePath path
    return .finished .unit

def execRoot : Builtin where
  signature := Signature.function ⟨107⟩ "fs.execRoot"
    |>.returns .string
  run env _ := return .finished (.string env.execRoot)

/-- The builtins on files in the order of their numbers. -/
def all : List Builtin :=
  [openFile, read, write, close, pathExists, remove, makeDirectory, execRoot]

end ScriptHost.Builtins.Files
