import ScriptHost.Proofs.Handle.Touching

/-! What a call that succeeds moves between the program and the resource of its handle. A read takes
bytes from what is unread there, a write and an answer leave theirs, and a listener gives away the
connection that waits longest. -/
namespace ScriptHost

open Network (Arrival EndpointId)
open Disk (OpeningId OpenFile)

private theorem lt_size_of_getD_ne {items : Array α} (absent : α)
    (present : items.getD index absent ≠ absent) : index < items.size := by
  by_contra outside
  rw [Array.getD_eq_getD_getElem?, Array.getElem?_eq_none (Nat.le_of_not_lt outside)] at present
  exact present rfl

/-- Bytes stand at a position of a content, and what was around them is as before. -/
structure Overwritten (before : Bytes) (position : Nat) (data after : Bytes) : Prop where
  front : before.take position <+: after
  placed : data <+: after.drop position
  behind : after.drop (position + data.length) = before.drop (position + data.length)

theorem Overwritten.nothing (content : Bytes) (position : Nat) :
    Overwritten content position [] content :=
  ⟨List.take_prefix .., List.nil_prefix, rfl⟩

theorem overwritten_overwrite (content : Bytes) (position : Nat) (data : Bytes) :
    Overwritten content position data (Disk.overwrite content position data) := by
  let front := content.take position ++ List.replicate (position - content.length) 0
  have reaches : front.length = position := by
    simp only [front, List.length_append, List.length_take, List.length_replicate]
    omega
  refine ⟨?_, ?_, ?_⟩
  · rw [Disk.overwrite, List.append_assoc, List.append_assoc]
    exact List.prefix_append ..
  · rw [Disk.overwrite, List.append_assoc, List.drop_left' reaches]
    exact List.prefix_append ..
  · have whole : (front ++ data).length = position + data.length := by
      rw [List.length_append, reaches]
    rw [Disk.overwrite, List.drop_left' whole]

namespace Disk

variable {disk disk' : Disk} {id : OpeningId} {file file' : OpenFile} {data : Bytes}

/-- The bytes of a file from the position of an opening on. -/
def unread (disk : Disk) (file : OpenFile) : Bytes := (disk.content file.node).drop file.position

/-- Where a write begins. -/
def writePosition (disk : Disk) (file : OpenFile) : Nat :=
  if file.mode.appends then (disk.content file.node).length else file.position

theorem unread_of_readFile (done : disk.readFile file limit = .ok (data, file', disk')) :
    data.length ≤ limit ∧ disk.unread file = data ++ disk'.unread file' := by
  rw [readFile] at done
  split at done
  · cases done
  split at done
  · cases done
  cases done
  rw [readUpTo_fst]
  refine ⟨List.length_take_le .., ?_⟩
  have first := List.take_prefix limit (disk.unread file)
  rw [← List.prefix_iff_eq_append.mp first, unread, List.drop_drop]
  rfl

theorem content_setNode (within : id < disk.nodes.size) (content : Bytes) :
    (disk.setNode id (.file content)).content id = content := by
  rw [Disk.content, node_setNode, if_pos ⟨rfl, within⟩]

theorem overwritten_of_writeFile (within : file.node < disk.nodes.size)
    (done : disk.writeFile file data = .ok (count, file', disk')) :
    count ≤ data.length ∧
      Overwritten (disk.content file.node) (disk.writePosition file) (data.take count)
        (disk'.content file.node) := by
  rw [writeFile] at done
  split at done
  · cases done
  split at done
  · cases done
    exact ⟨Nat.zero_le _, .nothing ..⟩
  cases done
  have stored := List.take_prefix (granted disk.writeGrants data.length) data
  refine ⟨stored.length_le, ?_⟩
  rw [← List.prefix_iff_eq_take.mp stored, content_setNode]
  · exact overwritten_overwrite ..
  · exact within

end Disk

namespace Network

variable {network network' : Network} {id : EndpointId} {data : Bytes}

/-- The bytes that have arrived, up to the end of the stream or a failure. -/
def arrived : List Arrival → Bytes
  | .data bytes :: later => bytes ++ arrived later
  | _ => []

/-- What there is to read at one end of a connection. -/
def Endpoint.unread (endpoint : Endpoint) : Bytes :=
  if endpoint.shut then [] else arrived endpoint.arrivals

theorem endpoint_setEndpoint_self (within : id < network.endpoints.size) (changed : Endpoint) :
    (network.setEndpoint id changed).endpoint id = changed := by
  rw [endpoint_setEndpoint, if_pos ⟨rfl, within⟩]

theorem unread_of_receive? (received : network.receive? id limit = some (.ok data, network')) :
    data.length ≤ limit ∧
      (network.endpoint id).unread = data ++ (network'.endpoint id).unread := by
  rw [receive?] at received
  dsimp only at received
  split at received
  · rename_i shut
    cases received
    exact ⟨Nat.zero_le _, rfl⟩
  rename_i isOpen
  split at received
  · cases received
  · cases received
    exact ⟨Nat.zero_le _, rfl⟩
  · cases received
  · rename_i bytes rest here
    cases received
    have within : id < network.endpoints.size := by
      refine lt_size_of_getD_ne default fun absent => ?_
      rw [Network.endpoint, absent] at here
      cases here
    refine ⟨List.length_take_le .., ?_⟩
    rw [endpoint_setEndpoint_self within, Endpoint.unread, Endpoint.unread, if_neg isOpen,
      if_neg isOpen, here]
    dsimp only
    split
    · rename_i whole
      rw [List.take_of_length_le whole]
      rfl
    · rw [arrived, arrived, ← List.append_assoc, List.take_append_drop]

theorem written_deliverToPeer (network : Network) (id other : EndpointId) (arrival : Arrival) :
    ((network.deliverToPeer id arrival).endpoint other).written =
      (network.endpoint other).written := by
  rw [deliverToPeer]
  split
  · rw [deliver, endpoint_setEndpoint]
    split
    · rename_i same
      rw [← same.1]
    · rfl
  · rfl

theorem written_shutDown (network : Network) (id : EndpointId) :
    ((network.shutDown id).endpoint id).written = (network.endpoint id).written := by
  rw [shutDown]
  split
  · rfl
  · rw [written_deliverToPeer, endpoint_setEndpoint]
    split <;> rfl

theorem written_of_send (within : id < network.endpoints.size)
    (sent : network.send id data = .ok network') :
    (network'.endpoint id).written = (network.endpoint id).written ++ data := by
  rw [send] at sent
  split at sent
  · cases sent
  split at sent
  · cases sent
  split at sent
  · rename_i empty
    cases sent
    rw [List.isEmpty_iff.mp empty, List.append_nil]
  · cases sent
    rw [written_deliverToPeer, endpoint_setEndpoint_self within]

theorem queue_of_accept? (taken : network.accept? socket = some (id, network')) :
    (network.listener socket).queue = id :: (network'.listener socket).queue := by
  rw [accept?] at taken
  split at taken
  · cases taken
  · rename_i endpoint rest waiting
    cases taken
    have within : socket < network.listeners.size := by
      refine lt_size_of_getD_ne default fun absent => ?_
      rw [Network.listener, absent] at waiting
      cases waiting
    rw [listener_setListener, if_pos ⟨rfl, within⟩, waiting]

end Network

namespace Holding

/-- The machine has what a handle stands for. -/
def Present (world : World) : Holding → Prop
  | .file opening =>
    opening < world.disk.openings.size ∧
      (world.disk.opening opening).node < world.disk.nodes.size
  | .stream endpoint => endpoint < world.network.endpoints.size
  | .listener socket => socket < world.network.listeners.size
  | .request context => context.endpoint < world.network.endpoints.size

/-- What a call can read. -/
def unread (world : World) : Holding → Bytes
  | .file opening => world.disk.unread (world.disk.opening opening)
  | .stream endpoint => (world.network.endpoint endpoint).unread
  | .listener _ | .request _ => []

/-- Bytes were written to a resource, and nothing else was. -/
def Gains (data : Bytes) (before after : World) : Holding → Prop
  | .file opening =>
    let file := before.disk.opening opening
    Overwritten (before.disk.content file.node) (before.disk.writePosition file) data
      (after.disk.content file.node)
  | .stream endpoint =>
    (after.network.endpoint endpoint).written = (before.network.endpoint endpoint).written ++ data
  | .request context =>
    (after.network.endpoint context.endpoint).written =
      (before.network.endpoint context.endpoint).written ++ data
  | .listener _ => False

/-- The end of the connection that a resource is. -/
def endpoint? : Holding → Option EndpointId
  | .stream endpoint => some endpoint
  | .request context => some context.endpoint
  | .file _ | .listener _ => none

end Holding

theorem World.held_of_keep {before after : World}
    (kept : after.ledger = before.ledger.keep kind holding) :
    after.held kind (before.ledger.next kind.service) = some holding := by
  have held : after.ledger.held kind (before.ledger.next kind.service) = some holding := by
    rw [kept]
    exact if_pos ⟨rfl, rfl⟩
  exact held

namespace Role

section

variable (role : Role) (moves : World → World → Prop) (args : List Value) (before : World)

/-- What a call that succeeds moves between the program and the resource that it reaches. -/
inductive Transfers : Holding → Value → World → Prop
  | received (use : role.use = .reads) (length : Args.int args 1 = .ok (Int.ofNat limit))
      (bound : data.length ≤ limit) (waited : Waited moves before last)
      (taken : holding.unread last = data ++ holding.unread after) :
      Transfers holding (.bytes data) after
  | written (use : role.use = .writes) (given : Args.bytes args 1 = .ok data)
      (bound : count ≤ data.length) (gained : holding.Gains (data.take count) before after) :
      Transfers holding (.ofNat count) after
  | accepted (use : role.use = .issues kind) (waited : WaitedAt moves before listener first)
      (waiting : (first.network.listener listener).queue =
        endpoint :: (network.listener listener).queue)
      (later : Waited moves { first with network } last)
      (released : after.network = last.network.release listener)
      (carried : value.handle? = some given) (held : after.held kind given = some connection)
      (isEnd : connection.endpoint? = some endpoint) : Transfers (.listener listener) value after
  | answered (use : role.use = .answers) (reply : Replies args before context bytes)
      (gained : (Holding.request context).Gains bytes before after) :
      Transfers (.request context) .unit after
  | nothing (use : role.use = .tellsPort ∨ role.use = .closes) : Transfers holding value after

end

/-- What a call does to a resource moves what it gives or is given. -/
theorem Acts.transfers {role : Role}
    (acts : role.Acts moves env args before kind handle holding (.ok value) after)
    (present : holding.Present before) : role.Transfers moves args before holding value after := by
  generalize ended : (.ok value : Except BuiltinError Value) = outcome at acts
  cases acts with
  | readFails | writeFails | sendFails | acceptFails | rejects | answerFails => cases ended
  | readsNothing use length =>
    cases ended
    exact .received use length (Nat.le_refl 0) .refl rfl
  | readsFile use length positive done =>
    cases ended
    have within := present.1
    rw [← Disk.openings_readFile (step_of_onSystem done)] at within
    obtain ⟨bound, taken⟩ := Disk.unread_of_readFile (step_of_onSystem done)
    refine .received use length bound .refl ?_
    rw [Holding.unread, Holding.unread, Disk.opening_setOpening, if_pos ⟨rfl, within⟩]
    exact taken
  | writesFile use given done =>
    cases ended
    obtain ⟨bound, gained⟩ := Disk.overwritten_of_writeFile present.2 (step_of_onSystem done)
    exact .written use given bound gained
  | receives use length positive waited done =>
    rename_i received network
    cases received with
    | error => cases ended
    | ok data =>
      cases ended
      obtain ⟨bound, taken⟩ := Network.unread_of_receive? done
      exact .received use length (bound.trans (Nat.min_le_left ..)) waited taken
  | sends use given done =>
    cases ended
    refine .written use given (Nat.le_refl _) ?_
    rw [List.take_length]
    exact Network.written_of_send present done
  | acceptsStream use waited faultless taken =>
    rename_i listener last endpoint network
    cases ended
    have held := World.held_of_keep (last.ledger_addStream endpoint (network.release listener))
    exact .accepted use waited (Network.queue_of_accept? taken) .refl rfl
      (Value.handle?_ofHandle _) held rfl
  | acceptsRequest use connected read given =>
    rename_i listener endpoint deadline last request rest value
    cases ended
    obtain ⟨waited, _, taken, _, sending⟩ := connected
    obtain ⟨carried, heap, rfl⟩ := of_requestValue given
    obtain ⟨context, ofEndpoint, kept⟩ :=
      last.ledger_addRequest endpoint request (last.network.release listener)
    exact .accepted use waited (Network.queue_of_accept? taken) sending rfl carried
      (World.held_of_keep kept) (congrArg some ofEndpoint)
  | tellsPort use port => exact .nothing (.inl use)
  | closes use => exact .nothing (.inr use)
  | answers use reply done =>
    cases ended
    refine .answered use reply ?_
    exact (Network.written_shutDown ..).trans (Network.written_of_send present done)

end Role

end ScriptHost
