import ScriptHost.Network.Loopback
import ScriptHost.Service.Files

/-!
Sockets by handle. Connections and listeners share one allocator, so a handle is live in at most
one of the two tables. Accepting and reading may have to wait; they are attempts that can be made
again, and an attempt finds out that its handle was closed meanwhile.
-/
namespace ScriptHost

/-- How an attempt that may have to wait ends: with its result or the reason why it failed, and what
there is after it. -/
inductive Attempt (Result State : Type) where
  | done (outcome : Except HostError Result) (after : State)
  | waiting

/-- The most that one read from a connection gives. -/
def maxReadChunk : Nat := 1048576

/-- Check a port number that a program gives. -/
def portOf (port : Int) : Except HostError Nat :=
  if 0 ≤ port ∧ port ≤ 65535 then .ok port.toNat
  else .error (.invalidArgument (.portOutOfRange port))

/-- Fail as an operation on a stream. -/
def onStream (operation : Operation) : Except IoCause α → Except HostError α
  | .ok result => .ok result
  | .error cause => .error (.io operation cause)

/-- The port of an open socket, unless the system has reasons of its own to fail. -/
def localPortOf (network : Network) (port : Nat) : Except HostError Nat :=
  match network.faults .localAddress with
  | some cause => .error (.io .localAddress cause)
  | none => .ok port

/-- Try to take a connection off a listening socket. A connection that waits is taken in any case;
only when there is none, or the system fails, the handle is looked at again. -/
def tryAccept (network : Network) (listener : Network.ListenerId) (stillOpen : Bool)
    (closed : HostError) : Attempt Network.EndpointId Network :=
  match network.faults .accept, network.accept? listener with
  | some cause, _ => .done (.error (if stillOpen then .io .accept cause else closed)) network
  | none, some (endpoint, network) => .done (.ok endpoint) network
  | none, none => if stillOpen then .waiting else .done (.error closed) network

/-- The connections and listeners. -/
structure SocketService where
  ids : Allocator := {}
  streams : Table Network.EndpointId := { kind := .socket }
  listeners : Table Network.ListenerId := { kind := .listener }

instance : Inhabited SocketService := ⟨{}⟩

namespace SocketService

/-- Keep a connection under a new handle. -/
def addStream (service : SocketService) (endpoint : Network.EndpointId) : Handle × SocketService :=
  (service.ids.next, { service with
    ids := service.ids.advance
    streams := service.streams.store service.ids.next endpoint })

/-- Keep a listener under a new handle. -/
def addListener (service : SocketService) (listener : Network.ListenerId) :
    Handle × SocketService :=
  (service.ids.next, { service with
    ids := service.ids.advance
    listeners := service.listeners.store service.ids.next listener })

/-- Connect and issue the connection's handle. -/
def connect (service : SocketService) (network : Network) (host : String) (port : Int) :
    Except HostError Handle × SocketService × Network :=
  match portOf port with
  | .error error => (.error error, service, network)
  | .ok port =>
    match onStream .connect (network.connect host port) with
    | .error error => (.error error, service, network)
    | .ok (endpoint, network) =>
      let (handle, service) := service.addStream endpoint
      (.ok handle, service, network)

/-- Listen and issue the listener's handle. -/
def listen (service : SocketService) (network : Network) (host : String) (port : Int) :
    Except HostError Handle × SocketService × Network :=
  match portOf port with
  | .error error => (.error error, service, network)
  | .ok port =>
    match onStream .listen (network.listen host port) with
    | .error error => (.error error, service, network)
    | .ok (listener, network) =>
      let (handle, service) := service.addListener listener
      (.ok handle, service, network)

/-- Try to accept a connection at a listener that the call holds on to. -/
def accept (service : SocketService) (network : Network) (server : Handle)
    (listener : Network.ListenerId) : Attempt Handle (SocketService × Network) :=
  match tryAccept network listener (service.listeners.contains server)
      (service.listeners.closed server) with
  | .waiting => .waiting
  | .done (.error error) network => .done (.error error) (service, network)
  | .done (.ok endpoint) network =>
    let (handle, service) := service.addStream endpoint
    .done (.ok handle) (service, network)

/-- Try to read from a connection that the call holds on to. An end of the stream or a failure is
put down to the handle if that was closed meanwhile. -/
def read (service : SocketService) (network : Network) (handle : Handle)
    (endpoint : Network.EndpointId) (limit : Nat) : Attempt Bytes (SocketService × Network) :=
  match network.receive? endpoint (min limit maxReadChunk) with
  | none => .waiting
  | some (received, network) =>
    let closedMeanwhile := !service.streams.contains handle
    let outcome := match received with
      | .ok [] => if closedMeanwhile then .error (service.streams.closed handle) else .ok []
      | .ok data => .ok data
      | .error cause =>
        .error (if closedMeanwhile then service.streams.closed handle else .io .read cause)
    .done outcome (service, network)

/-- Write to a connection; gives how many bytes were taken. -/
def write (service : SocketService) (network : Network) (handle : Handle) (data : Bytes) :
    Except HostError Nat × SocketService × Network :=
  match service.streams.get handle with
  | .error error => (.error error, service, network)
  | .ok endpoint =>
    match onStream .write (network.send endpoint data) with
    | .error error => (.error error, service, network)
    | .ok network => (.ok data.length, service, network)

/-- Close a connection or a listener. -/
def close (service : SocketService) (network : Network) (handle : Handle) :
    Except HostError Unit × SocketService × Network :=
  match service.streams.take? handle with
  | some (endpoint, streams) => (.ok (), { service with streams }, network.shutDown endpoint)
  | none =>
    match service.listeners.take? handle with
    | some (listener, listeners) => (.ok (), { service with listeners }, network.release listener)
    | none => (.error (service.streams.notFound handle), service, network)

/-- The port on this side of a connection or listener. -/
def localPort (service : SocketService) (network : Network) (handle : Handle) :
    Except HostError Nat :=
  match service.streams.get? handle with
  | some endpoint => localPortOf network (network.endpoint endpoint).port
  | none =>
    match service.listeners.get? handle with
    | some listener => localPortOf network (network.listener listener).port
    | none => .error (service.streams.notFound handle)

end SocketService

end ScriptHost
