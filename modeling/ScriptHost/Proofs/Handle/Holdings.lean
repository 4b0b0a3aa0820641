import ScriptHost.Proofs.Builtins.Regular
import ScriptHost.Proofs.Resource.Tables

/-! What the handles of all services stand for. Each service counts the handles it has issued, for
whatever kind of resource; keeping and dropping a resource touch one entry of one table. -/
namespace ScriptHost

/-- The service that issues handles for resources of a kind. -/
def ResourceKind.service : ResourceKind → Service
  | .file => .filesystem
  | .socket | .listener => .network
  | .httpListener | .httpRequest => .http

/-- What a handle stands for. -/
inductive Holding where
  | file (opening : Disk.OpeningId)
  | stream (endpoint : Network.EndpointId)
  | listener (listener : Network.ListenerId)
  | request (context : RequestContext)
  deriving DecidableEq, Repr

namespace Holding

/-- The network once a resource is closed. -/
def shutDown (network : Network) : Holding → Network
  | .file _ => network
  | .stream endpoint => network.shutDown endpoint
  | .listener socket => network.release socket
  | .request context => network.shutDown context.endpoint

/-- The port of a resource on this side. -/
def port? (network : Network) : Holding → Option Nat
  | .stream endpoint => some (network.endpoint endpoint).port
  | .listener socket => some (network.listener socket).port
  | .file _ | .request _ => none

end Holding

/-- What the handles stand for, and how many each service has issued. -/
@[ext] structure Ledger where
  held : ResourceKind → Handle → Option Holding
  issued : Service → Nat

namespace Ledger

/-- The handle that a service issues next. -/
def next (ledger : Ledger) (service : Service) : Handle :=
  Handle.afterIssuing (ledger.issued service)

/-- Keep a resource under the next handle of its service. -/
def keep (ledger : Ledger) (kind : ResourceKind) (holding : Holding) : Ledger where
  held other handle :=
    if other = kind ∧ handle = ledger.next kind.service then some holding
    else ledger.held other handle
  issued service :=
    if service = kind.service then ledger.issued service + 1 else ledger.issued service

/-- Forget what a handle stands for. -/
def drop (ledger : Ledger) (kind : ResourceKind) (handle : Handle) : Ledger :=
  { ledger with
    held := fun other named =>
      if other = kind ∧ named = handle then none else ledger.held other named }

end Ledger

namespace World

def held (world : World) : ResourceKind → Handle → Option Holding
  | .file, handle => (world.files.files.get? handle).map .file
  | .socket, handle => (world.sockets.streams.get? handle).map .stream
  | .listener, handle => (world.sockets.listeners.get? handle).map .listener
  | .httpListener, handle => (world.http.listeners.get? handle).map .listener
  | .httpRequest, handle => (world.http.requests.get? handle).map .request

def issued (world : World) : Service → Nat
  | .filesystem => world.files.ids.issued
  | .network => world.sockets.ids.issued
  | .http => world.http.ids.issued
  | .console | .closures | .named _ => 0

def ledger (world : World) : Ledger := ⟨world.held, world.issued⟩

/-- The world without a handle. -/
def drop (world : World) : ResourceKind → Handle → World
  | .file, handle => { world with files.files := world.files.files.drop handle }
  | .socket, handle => { world with sockets.streams := world.sockets.streams.drop handle }
  | .listener, handle => { world with sockets.listeners := world.sockets.listeners.drop handle }
  | .httpListener, handle => { world with http.listeners := world.http.listeners.drop handle }
  | .httpRequest, handle => { world with http.requests := world.http.requests.drop handle }

end World

namespace Table

variable {Resource : Type u} (table : Table Resource) (handle named : Handle)

theorem map_get?_store (resource : Resource) (wrap : Resource → Holding) :
    ((table.store handle resource).get? named).map wrap =
      if named = handle then some (wrap resource) else (table.get? named).map wrap := by
  split
  · rename_i same
    rw [same, get?_store]
    rfl
  · rename_i different
    rw [get?_store_of_ne different]

theorem map_get?_drop (wrap : Resource → Holding) :
    ((table.drop handle).get? named).map wrap =
      if named = handle then none else (table.get? named).map wrap := by
  split
  · rename_i same
    rw [same, get?_drop]
    rfl
  · rename_i different
    rw [get?_drop_of_ne different]

end Table

namespace World

variable {before after : World}

/-- What the services hold is as before, while everything else may have changed. -/
structure Rests (before after : World) : Prop where
  files : after.files = before.files
  sockets : after.sockets = before.sockets
  http : after.http = before.http

theorem Keeps.rests (kept : before.Keeps after) : before.Rests after :=
  ⟨kept.files, kept.sockets, kept.http⟩

theorem Rests.ledger (rested : before.Rests after) : after.ledger = before.ledger := by
  apply Ledger.ext
  · funext kind handle
    cases kind <;> simp only [World.ledger, held, rested.files, rested.sockets, rested.http]
  · funext service
    cases service <;> simp only [World.ledger, issued, rested.files, rested.sockets, rested.http]

theorem ledger_drop (world : World) (kind : ResourceKind) (handle : Handle) :
    (world.drop kind handle).ledger = world.ledger.drop kind handle := by
  apply Ledger.ext
  · funext other named
    cases kind <;> cases other <;>
      simp [ledger, held, drop, Ledger.drop, Table.map_get?_drop]
  · cases kind <;> rfl

/-! What each service opens or accepts is kept under its next handle. -/

private theorem ledger_eq_keep {kind : ResourceKind} {holding : Holding}
    (own : ∀ handle, after.held kind handle =
      if handle = before.ledger.next kind.service then some holding else before.held kind handle)
    (others : ∀ other ≠ kind, ∀ handle, after.held other handle = before.held other handle)
    (counted : ∀ service, after.issued service =
      if service = kind.service then before.issued service + 1 else before.issued service) :
    after.ledger = before.ledger.keep kind holding := by
  apply Ledger.ext
  · funext other handle
    by_cases same : other = kind
    · subst same
      simp only [Ledger.keep, true_and]
      exact own handle
    · simp only [Ledger.keep, same, false_and, if_false]
      exact others other same handle
  · funext service
    exact counted service

theorem ledger_openFile (world : World) (opening : Disk.OpeningId) (disk : Disk) :
    { world with
      files.ids := world.files.ids.advance
      files.files := world.files.files.store world.files.ids.next opening
      disk }.ledger = world.ledger.keep .file (.file opening) := by
  refine ledger_eq_keep (fun handle => Table.map_get?_store ..) ?_ ?_
  · intro other different handle
    cases other <;> first | rfl | contradiction
  · rintro (_ | _ | _) <;> rfl

theorem ledger_addStream (world : World) (endpoint : Network.EndpointId) (network : Network) :
    { world with sockets := (world.sockets.addStream endpoint).2, network }.ledger =
      world.ledger.keep .socket (.stream endpoint) := by
  refine ledger_eq_keep (fun handle => Table.map_get?_store ..) ?_ ?_
  · intro other different handle
    cases other <;> first | rfl | contradiction
  · rintro (_ | _ | _) <;> rfl

theorem ledger_addListener (world : World) (listener : Network.ListenerId) (network : Network) :
    { world with sockets := (world.sockets.addListener listener).2, network }.ledger =
      world.ledger.keep .listener (.listener listener) := by
  refine ledger_eq_keep (fun handle => Table.map_get?_store ..) ?_ ?_
  · intro other different handle
    cases other <;> first | rfl | contradiction
  · rintro (_ | _ | _) <;> rfl

theorem ledger_listen (world : World) (listener : Network.ListenerId) (network : Network) :
    { world with
      http.ids := world.http.ids.advance
      http.listeners := world.http.listeners.store world.http.ids.next listener
      network }.ledger = world.ledger.keep .httpListener (.listener listener) := by
  refine ledger_eq_keep (fun handle => Table.map_get?_store ..) ?_ ?_
  · intro other different handle
    cases other <;> first | rfl | contradiction
  · rintro (_ | _ | _) <;> rfl

theorem ledger_addRequest (world : World) (endpoint : Network.EndpointId)
    (request : Http.Request) (network : Network) :
    ∃ context, context.endpoint = endpoint ∧
      { world with http := (world.http.addRequest endpoint request).2, network }.ledger =
        world.ledger.keep .httpRequest (.request context) := by
  refine ⟨_, rfl, ledger_eq_keep (fun handle => Table.map_get?_store ..) ?_ ?_⟩
  · intro other different handle
    cases other <;> first | rfl | contradiction
  · rintro (_ | _ | _) <;> rfl

end World

end ScriptHost
