import ScriptHost.Args
import ScriptHost.Registry

/-!
Calls that may have to wait for a peer. A call that waits holds on to its listening socket and can
be advanced whenever the world has changed.
-/
namespace ScriptHost

/-- A dict of headers. -/
def newHeaders (headers : Http.Headers) : Action Value := do
  let world ← get
  let map : DictMap := SortedMap.ofList (headers.entries.map fun (name, value) =>
    (name, Value.string value))
  let (ref, heap) := world.heap.newDict map
  set { world with heap }
  return .dict ref

/-- The record of an accepted request. -/
def requestValue (request : IncomingRequest) : Action Value := do
  let headers ← newHeaders request.headers
  return .ofFields [.ofHandle request.handle, .string request.method, .string request.path, headers,
    .bytes request.body]

/-- Let go of a listening socket. -/
def letGo (listener : Network.ListenerId) : Action Unit :=
  modify fun world => { world with network := world.network.release listener }

/-- Hold on to a listening socket. -/
def holdOn (listener : Network.ListenerId) : Action Unit :=
  modify fun world => { world with network := world.network.hold listener }

/-- Advance a call that reads the request of an accepted connection. -/
def advanceReading (env : Environment) (server : Handle) (listener : Network.ListenerId)
    (endpoint : Network.EndpointId) (deadline : Nat) : Action Progress := do
  let world ← get
  match world.http.readRequest world.network env.limits world.clock server endpoint deadline with
  | .waiting => return .suspended (.readRequest server listener endpoint deadline)
  | .done outcome (http, network) =>
    set { world with http, network }
    letGo listener
    let request ← Action.ofHost outcome
    return .finished (← requestValue request)

/-- Advance a call that waits as far as the world lets it. -/
def Suspended.advance (env : Environment) : Suspended → Action Progress
  | .acceptStream server listener => do
    let world ← get
    match world.sockets.accept world.network server listener with
    | .waiting => return .suspended (.acceptStream server listener)
    | .done outcome (sockets, network) =>
      set { world with sockets, network }
      letGo listener
      let handle ← Action.ofHost outcome
      return .finished (.ofHandle handle)
  | .readStream handle endpoint limit => do
    let world ← get
    match world.sockets.read world.network handle endpoint limit with
    | .waiting => return .suspended (.readStream handle endpoint limit)
    | .done outcome (sockets, network) =>
      set { world with sockets, network }
      let data ← Action.ofHost outcome
      return .finished (.bytes data)
  | .acceptRequest server listener => do
    let world ← get
    match tryAccept world.network listener (world.http.listeners.contains server)
        (world.http.listeners.closed server) with
    | .waiting => return .suspended (.acceptRequest server listener)
    | .done (.error error) network =>
      set { world with network }
      letGo listener
      throw (.host error)
    | .done (.ok endpoint) network =>
      set { world with network }
      advanceReading env server listener endpoint (world.clock + env.requestTimeout)
  | .readRequest server listener endpoint deadline =>
    advanceReading env server listener endpoint deadline

end ScriptHost
