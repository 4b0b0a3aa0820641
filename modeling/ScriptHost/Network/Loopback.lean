import ScriptHost.Error.Io
import ScriptHost.Handle
import ScriptHost.Network.Address

/-!
The network of one machine: listening sockets with their queues, and connections as two ends that
feed each other. A listening socket lives while anything holds on to it.
-/
namespace ScriptHost

namespace Network

/-- The number of a listening socket. -/
abbrev ListenerId := Nat

/-- The number of one end of a connection. -/
abbrev EndpointId := Nat

/-- What arrives at one end of a connection. -/
inductive Arrival where
  | data (bytes : Bytes)
  | endOfStream
  | failure (cause : IoCause)
  deriving DecidableEq, Repr

/-- One end of a connection. -/
structure Endpoint where
  port : Nat
  /-- What has arrived and is not read yet. -/
  arrivals : List Arrival := []
  /-- Everything written so far. -/
  written : Bytes := []
  /-- Whether this end has shut the connection down. -/
  shut : Bool := false
  /-- The other end, if it is on this machine. -/
  peer : Option EndpointId := none
  deriving DecidableEq, Repr, Inhabited

/-- A listening socket. -/
structure Listener where
  port : Nat
  /-- Ends of connections that nobody has accepted yet. -/
  queue : List EndpointId := []
  /-- How many hold on to the socket. -/
  holders : Nat := 1
  deriving DecidableEq, Repr, Inhabited

end Network

/-- The network of one machine. -/
structure Network where
  /-- Whether the machine reaches itself. -/
  reachable : Bool := true
  listeners : Array Network.Listener := #[]
  endpoints : Array Network.Endpoint := #[]
  /-- The next port that nobody asked for. -/
  nextPort : Nat := 32768
  faults : Faults := .none

instance : Inhabited Network := ⟨{}⟩

namespace Network

def unknownHost : IoCause :=
  .reported "failed to lookup address information: Temporary failure in name resolution"

/-- Whether a host is this machine, if it is known at all. Addresses of version four are known, of which
those that begin with 127 and the one of zeros are this machine; so are those of version six, none of
which is. -/
def isHere (host : String) : Except IoCause Bool :=
  if host.contains '\x00' then .error .nulInPath
  else if host == "localhost" then .ok true
  else if (Address.ipv6? host.toList).isSome then .ok false
  else match Address.ipv4? host.toList with
    | some address => .ok (address == 0 || address / Nat.pow 256 3 == 127)
    | none => .error unknownHost

def listener (network : Network) (id : ListenerId) : Listener := network.listeners.getD id default

def endpoint (network : Network) (id : EndpointId) : Endpoint := network.endpoints.getD id default

def setListener (network : Network) (id : ListenerId) (listener : Listener) : Network :=
  { network with listeners := network.listeners.setIfInBounds id listener }

def setEndpoint (network : Network) (id : EndpointId) (endpoint : Endpoint) : Network :=
  { network with endpoints := network.endpoints.setIfInBounds id endpoint }

/-- Whether a listening socket is open on a port. -/
def isBound (network : Network) (port : Nat) : Bool :=
  network.listeners.any fun listener => listener.port == port && 0 < listener.holders

/-- Open a listening socket; port zero stands for any free one. -/
def listen (network : Network) (host : String) (port : Nat) :
    Except IoCause (ListenerId × Network) :=
  match network.faults .listen, isHere host with
  | some cause, _ | none, .error cause => .error cause
  | none, .ok false => .error (.os .addressNotAvailable)
  | none, .ok true =>
    let port' := if port = 0 then network.nextPort else port
    if network.isBound port' then .error (.os .addressInUse)
    else .ok (network.listeners.size,
      { network with
        listeners := network.listeners.push { port := port' }
        nextPort := if port = 0 then network.nextPort + 1 else network.nextPort })

/-- Hold on to a listening socket once more. -/
def hold (network : Network) (id : ListenerId) : Network :=
  let listener := network.listener id
  network.setListener id { listener with holders := listener.holders + 1 }

/-- Let go of a listening socket; the last one to do so closes it. -/
def release (network : Network) (id : ListenerId) : Network :=
  let listener := network.listener id
  network.setListener id { listener with holders := listener.holders - 1 }

/-- Queue an end of a connection at a listening socket. -/
def arrive (network : Network) (id : ListenerId) (endpoint : EndpointId) : Network :=
  let listener := network.listener id
  network.setListener id { listener with queue := listener.queue ++ [endpoint] }

/-- Connect to a port of this machine. -/
def connect (network : Network) (host : String) (port : Nat) :
    Except IoCause (EndpointId × Network) :=
  match network.faults .connect, isHere host with
  | some cause, _ | none, .error cause => .error cause
  | none, .ok false => .error (.os .networkUnreachable)
  | none, .ok true =>
    if !network.reachable then .error (.os .networkUnreachable)
    else match network.listeners.findIdx? fun listener =>
        listener.port == port && 0 < listener.holders with
    | none => .error (.os .connectionRefused)
    | some id =>
      let near := network.endpoints.size
      let far := near + 1
      let connected := { network with
        endpoints := (network.endpoints.push { port := network.nextPort, peer := some far }).push
          { port, peer := some near }
        nextPort := network.nextPort + 1 }
      .ok (near, connected.arrive id far)

/-- Take the connection that waits longest off a listening socket. -/
def accept? (network : Network) (id : ListenerId) : Option (EndpointId × Network) :=
  let listener := network.listener id
  match listener.queue with
  | [] => none
  | endpoint :: rest => some (endpoint, network.setListener id { listener with queue := rest })

/-- Let something arrive at one end of a connection. -/
def deliver (network : Network) (id : EndpointId) (arrival : Arrival) : Network :=
  let endpoint := network.endpoint id
  network.setEndpoint id { endpoint with arrivals := endpoint.arrivals ++ [arrival] }

/-- Let something arrive at the other end of a connection. -/
def deliverToPeer (network : Network) (id : EndpointId) (arrival : Arrival) : Network :=
  match (network.endpoint id).peer with
  | some peer => network.deliver peer arrival
  | none => network

/-- Read what has arrived, at most so many bytes; nothing while there is nothing. The end of the
stream and failures stay. -/
def receive? (network : Network) (id : EndpointId) (limit : Nat) :
    Option (Except IoCause Bytes × Network) :=
  let endpoint := network.endpoint id
  if endpoint.shut then some (.ok [], network)
  else match endpoint.arrivals with
    | [] => none
    | .endOfStream :: _ => some (.ok [], network)
    | .failure cause :: _ => some (.error cause, network)
    | .data bytes :: rest =>
      let left := if bytes.length ≤ limit then rest else .data (bytes.drop limit) :: rest
      some (.ok (bytes.take limit), network.setEndpoint id { endpoint with arrivals := left })

/-- Write to a connection. -/
def send (network : Network) (id : EndpointId) (data : Bytes) : Except IoCause Network :=
  let endpoint := network.endpoint id
  match network.faults .write with
  | some cause => .error cause
  | none =>
    if endpoint.shut then .error (.os .brokenPipe)
    else if data.isEmpty then .ok network
    else .ok ((network.setEndpoint id { endpoint with written := endpoint.written ++ data })
      |>.deliverToPeer id (.data data))

/-- Shut a connection down in both directions. -/
def shutDown (network : Network) (id : EndpointId) : Network :=
  let endpoint := network.endpoint id
  if endpoint.shut then network
  else (network.setEndpoint id { endpoint with shut := true }).deliverToPeer id .endOfStream

end Network

end ScriptHost
