import ScriptHost.Builtins.Waiting

/-!
Builtins on connections and listeners.
-/
namespace ScriptHost.Builtins.Sockets

/-- Run a step of the socket service. -/
def step (use : SocketService → Network → Except HostError α × SocketService × Network) :
    Action α :=
  Action.hostStep (fun world => use world.sockets world.network)
    fun world (sockets, network) => { world with sockets, network }

def connect : Builtin where
  signature := Signature.function ⟨200⟩ "socket.connect"
    |>.param "host" .string
    |>.param "port" .int
    |>.returns .handle
  run env args := do
    let host ← Action.ofExcept (Args.string args 0)
    let port ← Action.ofExcept (Args.int args 1)
    Action.need env.services.sockets .network
    let handle ← step fun sockets network => sockets.connect network host port
    return .finished (.ofHandle handle)

def listen : Builtin where
  signature := Signature.function ⟨201⟩ "socket.listen"
    |>.param "host" .string
    |>.param "port" .int
    |>.returns .handle
  run env args := do
    let host ← Action.ofExcept (Args.string args 0)
    let port ← Action.ofExcept (Args.int args 1)
    Action.need env.services.sockets .network
    let handle ← step fun sockets network => sockets.listen network host port
    return .finished (.ofHandle handle)

def accept : Builtin where
  signature := Signature.function ⟨202⟩ "socket.accept"
    |>.param "server" .handle
    |>.returns .handle
  run env args := do
    let server ← Action.ofExcept (Args.handle args 0)
    Action.need env.services.sockets .network
    let listener ← Action.ofHost ((← get).sockets.listeners.get server)
    holdOn listener
    (Suspended.acceptStream server listener).advance env

def read : Builtin where
  signature := Signature.function ⟨203⟩ "socket.read"
    |>.param "handle" .handle
    |>.param "n" .int
    |>.returns .bytes
  run env args := do
    let handle ← Action.ofExcept (Args.handle args 0)
    Action.need env.services.sockets .network
    let limit ← Action.ofHost (readLimit (← Action.ofExcept (Args.int args 1)))
    let endpoint ← Action.ofHost ((← get).sockets.streams.get handle)
    if limit = 0 then return .finished (.bytes [])
    (Suspended.readStream handle endpoint limit).advance env

def write : Builtin where
  signature := Signature.function ⟨204⟩ "socket.write"
    |>.param "handle" .handle
    |>.param "data" .bytes
    |>.returns .int
  run env args := do
    let handle ← Action.ofExcept (Args.handle args 0)
    Action.need env.services.sockets .network
    let data ← Action.ofExcept (Args.bytes args 1)
    let count ← step fun sockets network => sockets.write network handle data
    return .finished (.ofNat count)

def close : Builtin where
  signature := Signature.function ⟨205⟩ "socket.close"
    |>.param "handle" .handle
  run env args := do
    Action.need env.services.sockets .network
    let handle ← Action.ofExcept (Args.handle args 0)
    step fun sockets network => sockets.close network handle
    return .finished .unit

def localPort : Builtin where
  signature := Signature.function ⟨206⟩ "socket.localPort"
    |>.param "handle" .handle
    |>.returns .int
  run env args := do
    Action.need env.services.sockets .network
    let handle ← Action.ofExcept (Args.handle args 0)
    let world ← get
    let port ← Action.ofHost (world.sockets.localPort world.network handle)
    return .finished (.ofNat port)

/-- The builtins on sockets in the order of their numbers. -/
def all : List Builtin := [connect, listen, accept, read, write, close, localPort]

end ScriptHost.Builtins.Sockets
