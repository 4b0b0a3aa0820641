import Mathlib.Logic.Relation
import ScriptHost.Proofs.Action.Outcome
import ScriptHost.Proofs.Resource.Tables

/-! A call that waits for a peer at a listener, in the steps that others come between. The system is
asked for a connection in one step and the handle is looked up in another, so a close and a peer may
fall anywhere between them. -/
namespace ScriptHost

open Network (EndpointId ListenerId)

/-- The service that a call is of. -/
inductive Server where
  | sockets
  | http
  deriving DecidableEq

namespace Server

def listeners : Server → World → Table ListenerId
  | .sockets, world => world.sockets.listeners
  | .http, world => world.http.listeners

def close : Server → World → Handle → Except HostError Unit × World
  | .sockets, world, handle =>
    let (outcome, service, network) := world.sockets.close world.network handle
    (outcome, { world with sockets := service, network })
  | .http, world, handle =>
    let (outcome, service, network) := world.http.close world.network handle
    (outcome, { world with http := service, network })

end Server

/-- A call that has looked its listener up. -/
structure PendingAccept where
  server : Server
  handle : Handle
  listener : ListenerId
  limits : Http.Limits := {}

namespace PendingAccept

/-- Where a call is between two steps. -/
inductive Stage where
  | polling
  /-- The system had no connection to give, in the network as it was then. -/
  | unanswered (seen : Network)
  | sleeping
  | taken (endpoint : EndpointId)
  | reading (endpoint : EndpointId) (deadline : Nat)
  | returned (outcome : Except HostError Handle)

inductive Event where
  | interrupted
  /-- The call takes a connection, while its handle is in the table or is not. -/
  | took (endpoint : EndpointId) (stillOpen : Bool)
  | missed
  | checked
  | woke
  /-- A step with the connection that was taken. -/
  | served
  | arrived (endpoint : EndpointId)
  | closed
  | elsewhere
  deriving DecidableEq

section
variable (call : PendingAccept) (world : World)

/-- Whether the handle of the call is in the table of listeners. -/
def isOpen : Bool := (call.server.listeners world).contains call.handle

/-- What the call reports when its handle is gone. -/
def closedError : HostError := (call.server.listeners world).closed call.handle

/-- What an attempt comes to that finds the network so and looks the handle up in the world. -/
def attempt (network : Network) : Attempt EndpointId Network :=
  tryAccept network call.listener (call.isOpen world) (call.closedError world)

def holdOn : World := { world with network := world.network.hold call.listener }

def letGo : World := { world with network := world.network.release call.listener }

end

/-- One step of the call itself. -/
inductive Advance (call : PendingAccept) (world : World) :
    Stage → Event → World → Stage → Prop where
  | interrupted : Advance call world .polling .interrupted world .polling
  | takes (answered : call.attempt world world.network = .done (.ok endpoint) network) :
      Advance call world .polling (.took endpoint (call.isOpen world)) { world with network }
        (.taken endpoint)
  | misses (unanswered : ∀ endpoint network,
        call.attempt world world.network ≠ .done (.ok endpoint) network) :
      Advance call world .polling .missed world (.unanswered world.network)
  | stays (checked : call.attempt world seen = .waiting) :
      Advance call world (.unanswered seen) .checked world .sleeping
  | fails (checked : call.attempt world seen = .done (.error error) seen) :
      Advance call world (.unanswered seen) .checked (call.letGo world) (.returned (.error error))
  | wakes : Advance call world .sleeping .woke world .polling
  -- The system may refuse to set the connection up.
  | unusable (cause : IoCause) :
      Advance call world (.taken endpoint) .served (call.letGo world)
        (.returned (.error (.io .accept cause)))
  | keeps (kind : call.server = .sockets) :
      Advance call world (.taken endpoint) .served
        (call.letGo { world with sockets := (world.sockets.addStream endpoint).2 })
        (.returned (.ok (world.sockets.addStream endpoint).1))
  | begins (kind : call.server = .http) (deadline : Nat) :
      Advance call world (.taken endpoint) .served world (.reading endpoint deadline)
  | waits (clock : Nat)
      (undecided : world.http.readRequest world.network call.limits clock call.handle endpoint
        deadline = .waiting) :
      Advance call world (.reading endpoint deadline) .served world (.reading endpoint deadline)
  | refuses (clock : Nat)
      (refused : world.http.readRequest world.network call.limits clock call.handle endpoint
        deadline = .done (.error error) (http, network)) :
      Advance call world (.reading endpoint deadline) .served
        (call.letGo { world with http, network }) (.returned (.error error))
  | accepts (clock : Nat)
      (accepted : world.http.readRequest world.network call.limits clock call.handle endpoint
        deadline = .done (.ok request) (http, network)) :
      Advance call world (.reading endpoint deadline) .served
        (call.letGo { world with http, network }) (.returned (.ok request.handle))

/-- One step of anyone else: a peer that arrives as long as the listening socket is held, a close of
the handle, or whatever leaves the handle's place in the table alone. -/
inductive Others (call : PendingAccept) (world : World) : Event → World → Prop where
  | arrives (endpoint : EndpointId) (held : 0 < (world.network.listener call.listener).holders) :
      Others call world (.arrived endpoint)
        { world with network := world.network.arrive call.listener endpoint }
  | closes (done : call.server.close world call.handle = (.ok (), after))
      (removed : call.isOpen after = false) : Others call world .closed after
  | other (alone : (call.server.listeners after).get? call.handle =
        (call.server.listeners world).get? call.handle)
      (kind : (call.server.listeners after).kind = (call.server.listeners world).kind) :
      Others call world .elsewhere after

/-- What happens from the moment the call has looked its listener up until it returns. -/
inductive Run (call : PendingAccept) (origin : World) : List Event → World → Stage → Prop where
  | start (found : (call.server.listeners origin).get call.handle = .ok call.listener) :
      Run call origin [] (call.holdOn origin) .polling
  | advance (run : Run call origin events world stage)
      (step : Advance call world stage event after next) :
      Run call origin (events ++ [event]) after next
  | others (run : Run call origin events world stage)
      (unfinished : ∀ outcome, stage ≠ .returned outcome) (step : Others call world event after) :
      Run call origin (events ++ [event]) after stage

variable {call : PendingAccept} {origin world after : World} {events : List Event}
  {stage next : Stage} {event : Event}

/-! What a builtin does in one go. -/

/-- Steps of the call with nothing between them. -/
def Steps (call : PendingAccept) : World × Stage → World × Stage → Prop :=
  Relation.ReflTransGen fun front back =>
    ∃ event, Advance call front.1 front.2 event back.1 back.2

theorem network_of_tryAccept_eq_error {network network' : Network} {listener : ListenerId}
    (failed : tryAccept network listener stillOpen closed = .done (.error error) network') :
    network' = network := by
  rw [tryAccept] at failed
  split at failed
  · cases failed
    rfl
  · cases failed
  · split at failed <;> cases failed
    rfl

/-- An attempt and the look at the handle behind it. -/
theorem steps_of_attempt (call : PendingAccept) (world : World) :
    match call.attempt world world.network with
    | .waiting => call.Steps (world, .polling) (world, .sleeping)
    | .done (.error error) network =>
      call.Steps (world, .polling) (call.letGo { world with network }, .returned (.error error))
    | .done (.ok endpoint) network =>
      call.Steps (world, .polling) ({ world with network }, .taken endpoint) := by
  have missed : (∀ endpoint network,
      call.attempt world world.network ≠ .done (.ok endpoint) network) →
      call.Steps (world, .polling) (world, .unanswered world.network) := fun unanswered =>
    .single ⟨_, .misses unanswered⟩
  split
  · rename_i waiting
    exact (missed (by simp [waiting])).tail ⟨_, .stays waiting⟩
  · rename_i failed
    obtain rfl := network_of_tryAccept_eq_error failed
    exact (missed (by simp [failed])).tail ⟨_, .fails failed⟩
  · rename_i answered
    exact .single ⟨_, .takes answered⟩

/-- The socket service takes all of them together. -/
theorem steps_of_accept (kind : call.server = .sockets) (world : World) :
    match world.sockets.accept world.network call.handle call.listener with
    | .waiting => call.Steps (world, .polling) (world, .sleeping)
    | .done outcome (sockets, network) =>
      call.Steps (world, .polling)
        (call.letGo { world with sockets, network }, .returned outcome) := by
  have steps := steps_of_attempt call world
  rw [attempt, isOpen, closedError, kind, Server.listeners] at steps
  rw [SocketService.accept]
  generalize tryAccept world.network call.listener (world.sockets.listeners.contains call.handle)
    (world.sockets.listeners.closed call.handle) = outcome at steps ⊢
  match outcome, steps with
  | .waiting, steps => exact steps
  | .done (.error _) _, steps => exact steps
  | .done (.ok _) _, steps => exact steps.tail ⟨_, .keeps kind⟩

/-! What a step can do to the table of listeners. -/

private theorem listeners_of_readRequest {service http : HttpService} {network network' : Network}
    {limits : Http.Limits} {clock deadline : Nat} {handle : Handle} {endpoint : EndpointId}
    {outcome : Except HostError IncomingRequest}
    (done : service.readRequest network limits clock handle endpoint deadline =
      .done outcome (http, network')) : http.listeners = service.listeners := by
  simp only [HttpService.readRequest] at done
  split at done
  · cases done
    rfl
  · split at done
    · cases done
    · split at done <;> cases done <;> rfl

/-- The call itself leaves the listeners alone. -/
theorem Advance.listeners_eq (step : Advance call world stage event after next) :
    call.server.listeners after = call.server.listeners world := by
  cases step with
  | interrupted | misses | stays | wakes | begins | waits => rfl
  | takes | fails | unusable => cases call.server <;> rfl
  | keeps kind =>
    rw [kind]
    rfl
  | refuses _ done | accepts _ done =>
    cases call.server with
    | sockets => rfl
    | http => exact listeners_of_readRequest done

theorem Advance.isOpen_eq (step : Advance call world stage event after next) :
    call.isOpen after = call.isOpen world := by
  rw [isOpen, isOpen, step.listeners_eq]

private theorem kind_of_take? {Resource : Type} {table rest : Table Resource} {handle : Handle}
    {resource : Resource} (taken : table.take? handle = some (resource, rest)) :
    rest.kind = table.kind := by
  obtain ⟨_, rfl⟩ := Table.take?_eq_some_iff.mp taken
  rfl

private theorem kind_of_closeSockets (service : SocketService) (network : Network)
    (handle : Handle) :
    (service.close network handle).2.1.listeners.kind = service.listeners.kind := by
  unfold SocketService.close
  split
  · rfl
  · split
    · rename_i taken
      exact kind_of_take? taken
    · rfl

private theorem kind_of_closeHttp (service : HttpService) (network : Network) (handle : Handle) :
    (service.close network handle).2.1.listeners.kind = service.listeners.kind := by
  unfold HttpService.close
  split
  · rename_i taken
    exact kind_of_take? taken
  · split <;> rfl

private theorem kind_of_close (server : Server) (world : World) (handle : Handle) :
    (server.listeners (server.close world handle).2).kind = (server.listeners world).kind := by
  cases server with
  | sockets => exact kind_of_closeSockets ..
  | http => exact kind_of_closeHttp ..

theorem Others.kind_eq (step : Others call world event after) :
    (call.server.listeners after).kind = (call.server.listeners world).kind := by
  cases step with
  | arrives => cases call.server <;> rfl
  | closes done =>
    have kept := kind_of_close call.server world call.handle
    rwa [done] at kept
  | other _ kind => exact kind

end PendingAccept

end ScriptHost
