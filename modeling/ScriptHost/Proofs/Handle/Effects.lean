import Mathlib.Logic.Relation
import ScriptHost.Proofs.Handle.Roles

/-! What a call does to the resource that its handle stands for, told by what the system does: where
it reads and writes, which listener it takes a connection from, and which connection it shuts down.
A call that waits does its work in the world as it has become by then. -/
namespace ScriptHost

open Network (EndpointId ListenerId)

/-- What a service answers, as the program gets it. -/
def answerOf (value : α → Value) : Except HostError α → Except BuiltinError Value
  | .ok result => .ok (value result)
  | .error error => .error (.host error)

/-- The request that has arrived at the end of a connection. -/
def World.requestAt (world : World) (limits : Http.Limits) (endpoint : EndpointId)
    (deadline : Nat) : Except HostError (Http.Request × Http.Source) :=
  Http.readRequest limits (Http.patientSource deadline
    (HttpService.timedReads (world.network.endpoint endpoint).arrivals world.clock true))

section

variable (moves : World → World → Prop) (env : Environment) (args : List Value) (before : World)

/-- The world changes only around what programs hold. -/
def Keeping : Prop := ∀ earlier later, moves earlier later → earlier.Keeps later

/-- What the world has become while a call waits. -/
def Waited : World → World → Prop := Relation.ReflTransGen moves

/-- What the world has become while a call waits at a listener that it holds on to. -/
def WaitedAt (listener : ListenerId) : World → Prop :=
  Waited moves { before with network := before.network.hold listener }

/-- A connection was taken off a listener, and its peer had until the deadline to send its
request. -/
inductive Connected (listener : ListenerId) (endpoint : EndpointId) (deadline : Nat)
    (last : World) : Prop
  | intro (arriving : WaitedAt moves before listener first)
      (faultless : first.network.faults .accept = none)
      (taken : first.network.accept? listener = some (endpoint, network))
      (limit : deadline = first.clock + env.requestTimeout)
      (sending : Waited moves { first with network } last)

/-- The bytes of the answer that a call gives to a request. -/
inductive Replies (context : RequestContext) : Bytes → Prop
  | intro (number : Args.int args 1 = .ok status) (inRange : Http.statusOf status = .ok code)
      (given : Args.headers before.heap args 2 = .ok headers) (valid : headers.validate = .ok ())
      (text : Args.bytes args 3 = .ok body) :
      Replies context (Http.Response.toBytes
        { version := context.version, status := code, headers, body } context.headOnly)

namespace Role

variable (role : Role)

/-- What a call does to the resource of a kind that a handle stands for, what it gives and what the
world is after it. -/
inductive Acts :
    ResourceKind → Handle → Holding → Except BuiltinError Value → World → Prop
  -- Open files: a read or write is one step of the system at the position of the opening.
  | readsNothing (use : role.use = .reads) (length : Args.int args 1 = .ok 0) :
      Acts kind handle holding (.ok (.bytes [])) before
  | readsFile (use : role.use = .reads) (length : Args.int args 1 = .ok (Int.ofNat limit))
      (positive : 0 < limit)
      (done : onSystem before.disk.faults .read
        (before.disk.readFile (before.disk.opening opening) limit) = .ok (data, file, disk)) :
      Acts .file handle (.file opening) (.ok (.bytes data))
        { before with disk := disk.setOpening opening file }
  | readFails (use : role.use = .reads) (length : Args.int args 1 = .ok (Int.ofNat limit))
      (positive : 0 < limit)
      (failed : onSystem before.disk.faults .read
        (before.disk.readFile (before.disk.opening opening) limit) = .error error) :
      Acts .file handle (.file opening) (.error (.host error))
        { before with
          disk := before.disk.setOpening opening
            (before.disk.cutShort (before.disk.opening opening) limit) }
  | writesFile (use : role.use = .writes) (given : Args.bytes args 1 = .ok data)
      (done : onSystem before.disk.faults .write
        (before.disk.writeFile (before.disk.opening opening) data) = .ok (count, file, disk)) :
      Acts .file handle (.file opening) (.ok (.ofNat count))
        { before with disk := disk.setOpening opening file }
  | writeFails (use : role.use = .writes) (given : Args.bytes args 1 = .ok data)
      (failed : onSystem before.disk.faults .write
        (before.disk.writeFile (before.disk.opening opening) data) = .error error) :
      Acts .file handle (.file opening) (.error (.host error)) before
  -- Connections: what was sent waits at this end, what is written arrives at the other.
  | receives (use : role.use = .reads) (length : Args.int args 1 = .ok (Int.ofNat limit))
      (positive : 0 < limit) (waited : Waited moves before last)
      (done : last.network.receive? endpoint (min limit maxReadChunk) = some (received, network)) :
      Acts .socket handle (.stream endpoint) (answerOf .bytes (onStream .read received))
        { last with network }
  | sends (use : role.use = .writes) (given : Args.bytes args 1 = .ok data)
      (done : before.network.send endpoint data = .ok network) :
      Acts .socket handle (.stream endpoint) (.ok (.ofNat data.length)) { before with network }
  | sendFails (use : role.use = .writes) (given : Args.bytes args 1 = .ok data)
      (failed : before.network.send endpoint data = .error cause) :
      Acts .socket handle (.stream endpoint) (.error (.host (.io .write cause))) before
  -- Listeners: the call holds on to the socket until it ends, so a fault lets go of it too.
  | acceptFails (use : role.use = .issues issued) (waited : WaitedAt moves before listener last)
      (failed : last.network.faults .accept = some cause) :
      Acts kind handle (.listener listener) (.error (.host (.io .accept cause)))
        { last with network := last.network.release listener }
  | acceptsStream (use : role.use = .issues .socket) (waited : WaitedAt moves before listener last)
      (faultless : last.network.faults .accept = none)
      (taken : last.network.accept? listener = some (endpoint, network)) :
      Acts .listener handle (.listener listener)
        (.ok (.ofHandle (last.sockets.addStream endpoint).1))
        { last with
          sockets := (last.sockets.addStream endpoint).2
          network := network.release listener }
  | acceptsRequest (use : role.use = .issues .httpRequest)
      (connected : Connected moves env before listener endpoint deadline last)
      (read : last.requestAt env.limits endpoint deadline = .ok (request, rest))
      (given : (requestValue (last.http.addRequest endpoint request).1).runIn
        { last with
          http := (last.http.addRequest endpoint request).2
          network := last.network.release listener } = (.ok value, after)) :
      Acts .httpListener handle (.listener listener) (.ok value) after
  | rejects (use : role.use = .issues .httpRequest)
      (connected : Connected moves env before listener endpoint deadline last)
      (failed : last.requestAt env.limits endpoint deadline = .error error)
      (decided : HttpService.isUndecided error = false) :
      Acts .httpListener handle (.listener listener) (.error (.host error))
        { last with network := (HttpService.reject last.network endpoint error).release listener }
  | tellsPort (use : role.use = .tellsPort) (port : holding.port? before.network = some number) :
      Acts kind handle holding (answerOf .ofNat (localPortOf before.network number)) before
  | closes (use : role.use = .closes) :
      Acts kind handle holding (.ok .unit) (before.closed kind handle holding)
  -- Requests: the connection is shut down whether the answer could be sent or not.
  | answers (use : role.use = .answers) (reply : Replies args before context bytes)
      (done : before.network.send context.endpoint bytes = .ok network) :
      Acts .httpRequest handle (.request context) (.ok .unit)
        { before.drop .httpRequest handle with network := network.shutDown context.endpoint }
  | answerFails (use : role.use = .answers) (reply : Replies args before context bytes)
      (failed : before.network.send context.endpoint bytes = .error cause) :
      Acts .httpRequest handle (.request context) (.error (.host (.io .respond cause)))
        { before.drop .httpRequest handle with
          network := before.network.shutDown context.endpoint }

/-- What a call does to what handles stand for: nothing, or it keeps a new resource under the next
handle, or it forgets what its own handle stands for. -/
inductive Alters : Except BuiltinError Value → World → Prop
  | same (kept : after.ledger = before.ledger)
      (issues : ∀ kind, role.use = .issues kind → ∃ error, outcome = .error error)
      (stays : role.Consumes → ∃ error, outcome = .error error ∧ error.kind ≠ .io) :
      Alters outcome after
  | issued (use : role.use = .issues kind) (provided : env.provides kind.service = true)
      (carried : value.handle? = some (before.ledger.next kind.service))
      (kept : after.ledger = before.ledger.keep kind holding) : Alters (.ok value) after
  | retired (consumes : role.Consumes) (named : Args.handle args 0 = .ok handle)
      (member : kind ∈ role.takes) (held : before.held kind handle = some holding)
      (dropped : after.ledger = before.ledger.drop kind handle)
      (carriedOut : ∀ error, outcome = .error error → error.kind = .io) : Alters outcome after

/-- What a call comes to: it acts on the resource of its handle, or there is none, or the rest of
its arguments is refused. A call that takes no handle leaves what handles stand for, or adds to
it. -/
inductive Comes (refusal : BuiltinError → Prop) : Except BuiltinError Value → World → Prop
  | acts (named : Args.handle args 0 = .ok handle) (member : kind ∈ role.takes)
      (held : before.held kind handle = some holding)
      (acts : role.Acts moves env args before kind handle holding outcome after) :
      Comes refusal outcome after
  | missed (missing : ¬before.Finds role.takes args) (isResource : error.kind = .resource) :
      Comes refusal (.error error) before
  | refused (reason : refusal error) (isContract : error.kind = .contract) :
      Comes refusal (.error error) before
  | untaken (untaken : role.takes = []) (stays : ¬role.Consumes)
      (alters : role.Alters env args before outcome after) : Comes refusal outcome after

/-- Why a first attempt refuses an argument behind the handle. -/
def Refuses (error : BuiltinError) : Prop := ¬role.sound before.heap args ∨ Misread error

/-- A call that waits at the resource of its handle. -/
inductive Waits : Suspended → World → Prop
  | acceptStream (use : role.use = .issues .socket) (named : Args.handle args 0 = .ok handle)
      (member : .listener ∈ role.takes)
      (held : before.held .listener handle = some (.listener listener))
      (waited : WaitedAt moves before listener last) : Waits (.acceptStream handle listener) last
  | readStream (use : role.use = .reads) (named : Args.handle args 0 = .ok handle)
      (member : .socket ∈ role.takes)
      (held : before.held .socket handle = some (.stream endpoint))
      (length : Args.int args 1 = .ok (Int.ofNat limit)) (positive : 0 < limit)
      (waited : Waited moves before last) : Waits (.readStream handle endpoint limit) last
  | acceptRequest (use : role.use = .issues .httpRequest) (named : Args.handle args 0 = .ok handle)
      (member : .httpListener ∈ role.takes)
      (held : before.held .httpListener handle = some (.listener listener))
      (waited : WaitedAt moves before listener last) : Waits (.acceptRequest handle listener) last
  | readRequest (use : role.use = .issues .httpRequest) (named : Args.handle args 0 = .ok handle)
      (member : .httpListener ∈ role.takes)
      (held : before.held .httpListener handle = some (.listener listener))
      (connected : Connected moves env before listener endpoint deadline last) :
      Waits (.readRequest handle listener endpoint deadline) last

/-- An attempt at a call comes to what its role says, or has to wait. -/
def Tries (action : Action Progress) (now : World) : Prop :=
  Ends action now
    (fun error => role.Comes moves env args before (role.Refuses args before) (.error error))
    (Progress.Meets
      (fun value => role.Comes moves env args before (role.Refuses args before) (.ok value))
      (role.Waits moves env args before))

end Role

end

/-- The first attempt at a call does what the role says. -/
def Builtin.Plays (builtin : Builtin) (role : Role) : Prop := ∀ moves env args before,
  Keeping moves → before.Provided env →
    role.Tries moves env args before (builtin.run env args) before

/-! While a call waits, the world around it keeps what programs hold. -/

section

variable {moves : World → World → Prop} {env : Environment} {before last : World}
  (keeping : Keeping moves)

include keeping

theorem Waited.keeps (waited : Waited moves before last) : before.Keeps last := by
  induction waited with
  | refl => exact ⟨rfl, rfl, rfl, rfl⟩
  | tail _ step ih => exact ih.trans (keeping _ _ step)

theorem WaitedAt.keeps (waited : WaitedAt moves before listener last) : before.Keeps last := by
  have held := Waited.keeps keeping waited
  exact ⟨held.heap, held.files, held.sockets, held.http⟩

theorem Connected.keeps (connected : Connected moves env before listener endpoint deadline last) :
    before.Keeps last := by
  obtain ⟨arriving, _, _, _, sending⟩ := connected
  have sent := Waited.keeps keeping sending
  exact (arriving.keeps keeping).trans ⟨sent.heap, sent.files, sent.sockets, sent.http⟩

end

/-- A call goes on waiting when the world moves. -/
theorem Role.Waits.moved {role : Role} (waits : role.Waits moves env args before call last)
    (moved : moves last later) : role.Waits moves env args before call later := by
  cases waits with
  | acceptStream use named member held waited =>
    exact .acceptStream use named member held (waited.tail moved)
  | readStream use named member held length positive waited =>
    exact .readStream use named member held length positive (waited.tail moved)
  | acceptRequest use named member held waited =>
    exact .acceptRequest use named member held (waited.tail moved)
  | readRequest use named member held connected =>
    obtain ⟨arriving, faultless, taken, limit, sending⟩ := connected
    refine .readRequest use named member held ?_
    exact ⟨arriving, faultless, taken, limit, sending.tail moved⟩

/-- What a program gets for a request carries its handle, and its headers are a new dict. -/
theorem of_requestValue {world : World}
    (given : (requestValue incoming).runIn world = (.ok value, after)) :
    value.handle? = some incoming.handle ∧ ∃ heap, after = { world with heap } := by
  cases given
  exact ⟨Value.handle?_ofHandle _, _, rfl⟩

end ScriptHost
