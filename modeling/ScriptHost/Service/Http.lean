import ScriptHost.Http.Exchange
import ScriptHost.Http.Patience
import ScriptHost.Http.Request
import ScriptHost.Http.Response
import ScriptHost.Service.Sockets

/-!
The HTTP server by handle. A connection carries one request and one response: a request handle
stands for the duty to answer, and whoever takes it shuts the connection down.
-/
namespace ScriptHost

/-- What answering an accepted request takes. -/
structure RequestContext where
  endpoint : Network.EndpointId
  version : Http.Version
  /-- Whether the reply goes without its body. -/
  headOnly : Bool
  deriving DecidableEq, Repr

/-- A request as a program gets it. -/
structure IncomingRequest where
  handle : Handle
  method : String
  path : String
  headers : Http.Headers
  body : Bytes

/-- The listeners and the requests that wait for an answer. -/
structure HttpService where
  ids : Allocator := {}
  listeners : Table Network.ListenerId := { kind := .httpListener }
  requests : Table RequestContext := { kind := .httpRequest }

instance : Inhabited HttpService := ⟨{}⟩

namespace HttpService

/-- Listen and issue the listener's handle. -/
def listen (service : HttpService) (network : Network) (host : String) (port : Int) :
    Except HostError Handle × HttpService × Network :=
  match portOf port with
  | .error error => (.error error, service, network)
  | .ok port =>
    match onStream .listen (network.listen host port) with
    | .error error => (.error error, service, network)
    | .ok (listener, network) =>
      (.ok service.ids.next,
        { service with
          ids := service.ids.advance
          listeners := service.listeners.store service.ids.next listener }, network)

/-- The system reads that what has arrived stands for, and one more that finds nothing. -/
def timedReads (arrivals : List Network.Arrival) (clock : Nat) (listenerOpen : Bool) :
    List Http.TimedRead :=
  (arrivals.map fun arrival =>
    match arrival with
    | .data bytes => ⟨.data bytes, clock, listenerOpen⟩
    | .endOfStream => ⟨.endOfStream, clock, listenerOpen⟩
    | .failure cause => ⟨.failure cause, clock, listenerOpen⟩) ++
  [⟨.wouldBlock, clock, listenerOpen⟩]

/-- Whether an error only says that the peer may still send. -/
def isUndecided : HostError → Bool
  | .io _ cause => cause == Http.undecided
  | _ => false

/-- The reply to a request that cannot be read: the reason as plain text. -/
def rejection (error : HostError) : Http.Response :=
  { version := .http11
    status := 400
    headers := SortedMap.empty.insert "Content-Type" "text/plain; charset=utf-8"
    body := Text.toBytes error.message }

/-- Send a rejection as well as it can be sent, and shut the connection down. -/
def reject (network : Network) (endpoint : Network.EndpointId) (error : HostError) : Network :=
  let sent := match network.send endpoint ((rejection error).toBytes false) with
    | .ok network => network
    | .error _ => network
  sent.shutDown endpoint

/-- Keep an accepted request under a new handle. -/
def addRequest (service : HttpService) (endpoint : Network.EndpointId) (request : Http.Request) :
    IncomingRequest × HttpService :=
  let context : RequestContext :=
    { endpoint
      version := request.version
      headOnly := Text.equalIgnoringCase request.method "HEAD" }
  ({ handle := service.ids.next
     method := request.method
     path := request.path
     headers := request.headers
     body := request.body },
   { service with
     ids := service.ids.advance
     requests := service.requests.store service.ids.next context })

/-- Try to read the request of an accepted connection. A failure is put down to the listener if
that was closed meanwhile, and told to the peer otherwise. -/
def readRequest (service : HttpService) (network : Network) (limits : Http.Limits) (clock : Nat)
    (server : Handle) (endpoint : Network.EndpointId) (deadline : Nat) :
    Attempt IncomingRequest (HttpService × Network) :=
  let stillOpen := service.listeners.contains server
  let reads := timedReads (network.endpoint endpoint).arrivals clock stillOpen
  match Http.readRequest limits (Http.patientSource deadline reads) with
  | .ok (request, _) =>
    let (incoming, service) := service.addRequest endpoint request
    .done (.ok incoming) (service, network)
  | .error error =>
    if isUndecided error then .waiting
    else if !stillOpen then
      .done (.error (service.listeners.closed server)) (service, network.shutDown endpoint)
    else .done (.error error) (service, reject network endpoint error)

/-- Answer an accepted request. Bad arguments and handles that name no request change nothing;
from there on the handle is taken and the connection shut down, even if writing fails. -/
def respond (service : HttpService) (network : Network) (handle : Handle) (status : Int)
    (headers : Http.Headers) (body : Bytes) : Except HostError Unit × HttpService × Network :=
  match Http.statusOf status with
  | .error error => (.error error, service, network)
  | .ok status =>
    match headers.validate with
    | .error error => (.error error, service, network)
    | .ok () =>
      match service.requests.take? handle with
      | none => (.error (service.requests.notFound handle), service, network)
      | some (context, requests) =>
        let response : Http.Response := { version := context.version, status, headers, body }
        let (outcome, sent) : Except HostError Unit × Network :=
          match network.send context.endpoint (response.toBytes context.headOnly) with
          | .ok network => (.ok (), network)
          | .error cause => (.error (.io .respond cause), network)
        (outcome, { service with requests }, sent.shutDown context.endpoint)

/-- Close a listener, or drop an accepted request without an answer. -/
def close (service : HttpService) (network : Network) (handle : Handle) :
    Except HostError Unit × HttpService × Network :=
  match service.listeners.take? handle with
  | some (listener, listeners) => (.ok (), { service with listeners }, network.release listener)
  | none =>
    match service.requests.take? handle with
    | some (context, requests) =>
      (.ok (), { service with requests }, network.shutDown context.endpoint)
    | none => (.error (service.requests.notFound handle), service, network)

/-- The port of a listener. -/
def localPort (service : HttpService) (network : Network) (handle : Handle) :
    Except HostError Nat :=
  match service.listeners.get handle with
  | .error error => .error error
  | .ok listener => localPortOf network (network.listener listener).port

/-- The number of requests that wait for an answer. -/
def pendingRequests (service : HttpService) : Nat := service.requests.size

end HttpService

end ScriptHost
