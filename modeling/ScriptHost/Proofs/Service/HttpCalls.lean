import Mathlib.Logic.Function.Basic
import Mathlib.Logic.Relation
import ScriptHost.Proofs.Resource.Tables
import ScriptHost.Service.Http

/-! The calls of a server as the atomic steps that they interleave with. What the operating system
and the peers answer is left open; each table is touched in steps of its own. -/
namespace ScriptHost.HttpService

open Network (EndpointId ListenerId)

abbrev CallId := Nat

/-- What a program asks of the service. -/
inductive Call where
  | listen (host : String) (port : Int)
  | accept (server : Handle)
  | respond (handle : Handle) (status : Int) (headers : Http.Headers) (body : Bytes)
  | close (handle : Handle)

/-- What a call gives back when it succeeds. -/
inductive Reply where
  | handle (handle : Handle)
  | request (request : IncomingRequest)
  | done

/-- How far a call has come, with what it has in hand between two steps. -/
inductive Stage where
  | called
  | bound (listener : ListenerId)
  | namedListener (listener : ListenerId) (handle : Handle)
  | polling (listener : ListenerId)
  | reading (endpoint : EndpointId) (deadline : Nat) (reads : List Http.TimedRead)
  | unreadable (endpoint : EndpointId) (error : HostError)
  | rejecting (endpoint : EndpointId) (error : HostError)
  | parsed (endpoint : EndpointId) (request : Http.Request)
  | namedRequest (endpoint : EndpointId) (request : Http.Request) (handle : Handle)
  | answering (context : RequestContext) (response : Http.Response)
  | missed
  | ending (endpoint : EndpointId) (outcome : Except HostError Reply)
  | returned (outcome : Except HostError Reply)

/-- What has happened on a connection so far. -/
structure Connection where
  accepted : Bool := false
  /-- The requests read off it. -/
  requests : List Http.Request := []
  /-- The handles that its requests were kept under. -/
  handles : List Handle := []
  /-- The calls that took such a handle. -/
  takers : List CallId := []
  /-- What got through of each response that was written. -/
  written : List Bytes := []
  shut : Bool := false

/-- What the calls share, and the record of all connections. -/
structure World where
  service : HttpService := {}
  connections : EndpointId → Connection := fun _ => {}

/-- Record something that happens on a connection. -/
def World.note (world : World) (endpoint : EndpointId) (change : Connection → Connection) : World :=
  { world with
    connections :=
      Function.update world.connections endpoint (change (world.connections endpoint)) }

/-- What answering the request of a connection takes. -/
def contextOf (endpoint : EndpointId) (request : Http.Request) : RequestContext where
  endpoint := endpoint
  version := request.version
  headOnly := Text.equalIgnoringCase request.method "HEAD"

def incomingOf (handle : Handle) (request : Http.Request) : IncomingRequest where
  handle := handle
  method := request.method
  path := request.path
  headers := request.headers
  body := request.body

/-- Steps that change nothing but the stage of their call: checks, look-ups, and system calls of
which only the answer matters. -/
inductive Look (limits : Http.Limits) (service : HttpService) : Call → Stage → Stage → Prop where
  | badPort (refused : portOf port = .error error) :
      Look limits service (.listen host port) .called (.returned (.error error))
  | bindFails (checked : portOf port = .ok number) (cause : IoCause) :
      Look limits service (.listen host port) .called (.returned (.error (.io .listen cause)))
  | binds (checked : portOf port = .ok number) (listener : ListenerId) :
      Look limits service (.listen host port) .called (.bound listener)
  | noListener (missing : service.listeners.get server = .error error) :
      Look limits service (.accept server) .called (.returned (.error error))
  | polls (found : service.listeners.get server = .ok listener) :
      Look limits service (.accept server) .called (.polling listener)
  | waits : Look limits service (.accept server) (.polling listener) (.polling listener)
  | closedWhileWaiting (closed : service.listeners.contains server = false) :
      Look limits service (.accept server) (.polling listener)
        (.returned (.error (service.listeners.closed server)))
  | acceptFails (cause : IoCause) :
      Look limits service (.accept server) (.polling listener)
        (.returned (.error (.io .accept cause)))
  -- The buffer may take in more than the request needs.
  | reads (outcome : Http.ReadOutcome) (clock : Nat) :
      Look limits service (.accept server) (.reading endpoint deadline reads)
        (.reading endpoint deadline
          (reads ++ [⟨outcome, clock, service.listeners.contains server⟩]))
  | unreadable (failed : Http.readRequest limits (Http.patientSource deadline reads) = .error error)
      (decided : isUndecided error = false) :
      Look limits service (.accept server) (.reading endpoint deadline reads)
        (.unreadable endpoint error)
  | closedWhileReading (closed : service.listeners.contains server = false) :
      Look limits service (.accept server) (.unreadable endpoint error)
        (.ending endpoint (.error (service.listeners.closed server)))
  | rejects (present : service.listeners.contains server = true) :
      Look limits service (.accept server) (.unreadable endpoint error) (.rejecting endpoint error)
  | badStatus (refused : Http.statusOf status = .error error) :
      Look limits service (.respond handle status headers body) .called (.returned (.error error))
  | badHeaders (checked : Http.statusOf status = .ok code)
      (refused : headers.validate = .error error) :
      Look limits service (.respond handle status headers body) .called (.returned (.error error))
  | noRequest (checked : Http.statusOf status = .ok code) (valid : headers.validate = .ok ())
      (missing : service.requests.take? handle = none) :
      Look limits service (.respond handle status headers body) .called
        (.returned (.error (service.requests.notFound handle)))
  | isNoListener (missing : service.listeners.take? handle = none) :
      Look limits service (.close handle) .called .missed
  | isNoRequest (missing : service.requests.take? handle = none) :
      Look limits service (.close handle) .missed
        (.returned (.error (service.requests.notFound handle)))

/-- One atomic step of a call. The system hands out every connection once. A handle is issued only
while the counter has not run out, which is taken to be out of reach. -/
inductive Advance (limits : Http.Limits) (caller : CallId) :
    World → Call → Stage → World → Stage → Prop where
  | look (seen : Look limits world.service call stage next) :
      Advance limits caller world call stage world next
  | nameListener (room : world.service.ids.issued < UInt64.size - 1) :
      Advance limits caller world (.listen host port) (.bound listener)
        { world with service.ids := world.service.ids.advance }
        (.namedListener listener world.service.ids.next)
  | keepListener :
      Advance limits caller world (.listen host port) (.namedListener listener handle)
        { world with service.listeners := world.service.listeners.store handle listener }
        (.returned (.ok (.handle handle)))
  | connect (fresh : (world.connections endpoint).accepted = false) (deadline : Nat) :
      Advance limits caller world (.accept server) (.polling listener)
        (world.note endpoint fun connection => { connection with accepted := true })
        (.reading endpoint deadline [])
  | lose (fresh : (world.connections endpoint).accepted = false) (cause : IoCause) :
      Advance limits caller world (.accept server) (.polling listener)
        (world.note endpoint fun connection => { connection with accepted := true })
        (.returned (.error (.io .accept cause)))
  | parse
      (read : Http.readRequest limits (Http.patientSource deadline reads) = .ok (request, rest)) :
      Advance limits caller world (.accept server) (.reading endpoint deadline reads)
        (world.note endpoint fun connection =>
          { connection with requests := connection.requests ++ [request] })
        (.parsed endpoint request)
  | reject (sent : Bytes) (start : sent <+: (rejection error).toBytes false) :
      Advance limits caller world (.accept server) (.rejecting endpoint error)
        (world.note endpoint fun connection =>
          { connection with written := connection.written ++ [sent] })
        (.ending endpoint (.error error))
  | nameRequest (room : world.service.ids.issued < UInt64.size - 1) :
      Advance limits caller world (.accept server) (.parsed endpoint request)
        { world with service.ids := world.service.ids.advance }
        (.namedRequest endpoint request world.service.ids.next)
  | keepRequest :
      Advance limits caller world (.accept server) (.namedRequest endpoint request handle)
        ({ world with service.requests :=
            world.service.requests.store handle (contextOf endpoint request) }.note endpoint
          fun connection => { connection with handles := connection.handles ++ [handle] })
        (.returned (.ok (.request (incomingOf handle request))))
  | take (checked : Http.statusOf status = .ok code) (valid : headers.validate = .ok ())
      (taken : world.service.requests.take? handle = some (context, left)) :
      Advance limits caller world (.respond handle status headers body) .called
        ({ world with service.requests := left }.note context.endpoint
          fun connection => { connection with takers := connection.takers ++ [caller] })
        (.answering context ⟨context.version, code, headers, body⟩)
  | write :
      Advance limits caller world (.respond handle status headers body)
        (.answering context response)
        (world.note context.endpoint fun connection =>
          { connection with written := connection.written ++ [response.toBytes context.headOnly] })
        (.ending context.endpoint (.ok .done))
  | writeFails (sent : Bytes) (start : sent <+: response.toBytes context.headOnly)
      (cause : IoCause) :
      Advance limits caller world (.respond handle status headers body)
        (.answering context response)
        (world.note context.endpoint fun connection =>
          { connection with written := connection.written ++ [sent] })
        (.ending context.endpoint (.error (.io .respond cause)))
  | closeListener (taken : world.service.listeners.take? handle = some (listener, left)) :
      Advance limits caller world (.close handle) .called
        { world with service.listeners := left } (.returned (.ok .done))
  | dropRequest (taken : world.service.requests.take? handle = some (context, left)) :
      Advance limits caller world (.close handle) .missed
        ({ world with service.requests := left }.note context.endpoint
          fun connection => { connection with takers := connection.takers ++ [caller] })
        (.ending context.endpoint (.ok .done))
  | shutDown :
      Advance limits caller world call (.ending endpoint outcome)
        (world.note endpoint fun connection => { connection with shut := true })
        (.returned outcome)

/-- A call that was made and its stage. -/
structure Task where
  call : Call
  stage : Stage

/-- The shared world and all calls made so far, those that have returned included. -/
structure State where
  world : World := {}
  calls : CallId → Option Task := fun _ => none

/-- The state with another world and one call at another stage. -/
def State.proceed (state : State) (caller : CallId) (world : World) (task : Task) : State :=
  ⟨world, Function.update state.calls caller (some task)⟩

/-- A call takes a step while all others rest. -/
inductive State.Moves (limits : Http.Limits) (caller : CallId) : State → State → Prop where
  | intro {world : World} (running : state.calls caller = some task)
      (advance : Advance limits caller state.world task.call task.stage world next) :
      Moves limits caller state (state.proceed caller world ⟨task.call, next⟩)

/-- A call is made, or a call that was made takes a step. -/
inductive State.Step (limits : Http.Limits) : State → State → Prop where
  | start (idle : state.calls caller = none) (call : Call) :
      Step limits state (state.proceed caller state.world ⟨call, .called⟩)
  | move (moves : state.Moves limits caller state') : Step limits state state'

/-- Any number of steps, in any order. -/
abbrev State.Run (limits : Http.Limits) : State → State → Prop :=
  Relation.ReflTransGen (State.Step limits)

/-- What a run from an empty service can lead to. -/
abbrev State.Reachable (limits : Http.Limits) (state : State) : Prop := State.Run limits {} state

end ScriptHost.HttpService
