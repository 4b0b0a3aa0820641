import ScriptHost.Proofs.Disk.Contents
import ScriptHost.Proofs.Handle.Effects

/-! Which parts of the machine belong to what a handle stands for: an open file has its opening and
its node, a connection its two ends. A call that acts on one resource touches no part that belongs
to another, but for the connections that it takes off its own listener. -/
namespace ScriptHost

open Network (EndpointId ListenerId)
open Disk (OpeningId NodeId)

private theorem getD_setIfInBounds (items : Array α) (here there : Nat) (item absent : α) :
    (items.setIfInBounds here item).getD there absent =
      if here = there ∧ here < items.size then item else items.getD there absent := by
  simp only [Array.getD_eq_getD_getElem?, Array.getElem?_setIfInBounds]
  split <;> simp_all
  split <;> simp_all

namespace Network

theorem endpoint_setEndpoint (network : Network) (here there : EndpointId) (changed : Endpoint) :
    (network.setEndpoint here changed).endpoint there =
      if here = there ∧ here < network.endpoints.size then changed else network.endpoint there :=
  getD_setIfInBounds ..

theorem listener_setListener (network : Network) (here there : ListenerId) (changed : Listener) :
    (network.setListener here changed).listener there =
      if here = there ∧ here < network.listeners.size then changed else network.listener there :=
  getD_setIfInBounds ..

/-- One of the two ends of a connection. -/
def IsEnd (network : Network) (endpoint other : EndpointId) : Prop :=
  other = endpoint ∨ (network.endpoint endpoint).peer = some other

/-- All ends of connections and all listeners but these are as before, and connections keep their
ends. -/
structure ChangesOnly (before : Network) (ends : EndpointId → Prop)
    (listeners : ListenerId → Prop) (after : Network) : Prop where
  endpoint : ∀ id, ¬ends id → after.endpoint id = before.endpoint id
  listener : ∀ id, ¬listeners id → after.listener id = before.listener id
  peer : ∀ id, (after.endpoint id).peer = (before.endpoint id).peer

variable {ends : EndpointId → Prop} {listeners : ListenerId → Prop} {network network' : Network}
  {endpoint : EndpointId} {socket : ListenerId}

theorem ChangesOnly.refl (network : Network) : network.ChangesOnly ends listeners network :=
  ⟨fun _ _ => rfl, fun _ _ => rfl, fun _ => rfl⟩

theorem ChangesOnly.trans {first second third : Network}
    (earlier : first.ChangesOnly ends listeners second)
    (later : second.ChangesOnly ends listeners third) : first.ChangesOnly ends listeners third where
  endpoint id outside := (later.endpoint id outside).trans (earlier.endpoint id outside)
  listener id outside := (later.listener id outside).trans (earlier.listener id outside)
  peer id := (later.peer id).trans (earlier.peer id)

theorem ChangesOnly.isEnd_iff (changes : network.ChangesOnly ends listeners network')
    (endpoint other : EndpointId) :
    network'.IsEnd endpoint other ↔ network.IsEnd endpoint other := by
  rw [IsEnd, IsEnd, changes.peer]

theorem changesOnly_setEndpoint (inside : ends endpoint) {changed : Endpoint}
    (samePeer : changed.peer = (network.endpoint endpoint).peer) :
    network.ChangesOnly ends listeners (network.setEndpoint endpoint changed) where
  endpoint id outside := by
    rw [endpoint_setEndpoint, if_neg]
    rintro ⟨rfl, _⟩
    exact outside inside
  listener _ _ := rfl
  peer id := by
    rw [endpoint_setEndpoint]
    split
    · rename_i same
      rw [samePeer, same.1]
    · rfl

theorem changesOnly_setListener (inside : listeners socket) (changed : Listener) :
    network.ChangesOnly ends listeners (network.setListener socket changed) where
  endpoint _ _ := rfl
  listener id outside := by
    rw [listener_setListener, if_neg]
    rintro ⟨rfl, _⟩
    exact outside inside
  peer _ := rfl

theorem changesOnly_deliverToPeer (arrival : Arrival)
    (inside : ∀ other, network.IsEnd endpoint other → ends other) :
    network.ChangesOnly ends listeners (network.deliverToPeer endpoint arrival) := by
  rw [deliverToPeer]
  split
  · rename_i peer connected
    exact changesOnly_setEndpoint (inside peer (.inr connected)) rfl
  · exact .refl network

/-- A change of one end that is told to the other. -/
private theorem changesOnly_both {changed : Endpoint} (arrival : Arrival)
    (samePeer : changed.peer = (network.endpoint endpoint).peer)
    (inside : ∀ other, network.IsEnd endpoint other → ends other) :
    network.ChangesOnly ends listeners
      ((network.setEndpoint endpoint changed).deliverToPeer endpoint arrival) := by
  have near : network.ChangesOnly ends listeners (network.setEndpoint endpoint changed) :=
    changesOnly_setEndpoint (inside endpoint (.inl rfl)) samePeer
  refine near.trans (changesOnly_deliverToPeer arrival fun other isEnd => ?_)
  exact inside other ((near.isEnd_iff endpoint other).mp isEnd)

theorem changesOnly_send (sent : network.send endpoint data = .ok network')
    (inside : ∀ other, network.IsEnd endpoint other → ends other) :
    network.ChangesOnly ends listeners network' := by
  rw [send] at sent
  split at sent
  · cases sent
  · split at sent
    · cases sent
    · split at sent <;> cases sent
      · exact .refl network
      · exact changesOnly_both _ rfl inside

theorem changesOnly_shutDown (inside : ∀ other, network.IsEnd endpoint other → ends other) :
    network.ChangesOnly ends listeners (network.shutDown endpoint) := by
  rw [shutDown]
  split
  · exact .refl network
  · exact changesOnly_both _ rfl inside

/-- The connection may be shut down behind other changes of it. -/
theorem ChangesOnly.shutDown (changes : network.ChangesOnly ends listeners network')
    (inside : ∀ other, network.IsEnd endpoint other → ends other) :
    network.ChangesOnly ends listeners (network'.shutDown endpoint) :=
  changes.trans (changesOnly_shutDown fun other isEnd =>
    inside other ((changes.isEnd_iff endpoint other).mp isEnd))

theorem changesOnly_receive?
    (received : network.receive? endpoint limit = some (result, network'))
    (inside : ends endpoint) : network.ChangesOnly ends listeners network' := by
  rw [receive?] at received
  dsimp only at received
  split at received
  · cases received
    exact .refl network
  · split at received <;> cases received
    · exact .refl network
    · exact .refl network
    · exact changesOnly_setEndpoint inside rfl

theorem changesOnly_reject (network : Network) (error : HostError)
    (inside : ∀ other, network.IsEnd endpoint other → ends other) :
    network.ChangesOnly ends listeners (HttpService.reject network endpoint error) := by
  rw [HttpService.reject]
  split
  · rename_i sent
    exact (changesOnly_send sent inside).shutDown inside
  · exact changesOnly_shutDown inside

end Network

namespace Disk

variable {disk disk' : Disk} {opening : OpeningId} {file file' : OpenFile}

theorem opening_setOpening (disk : Disk) (here there : OpeningId) (file : OpenFile) :
    (disk.setOpening here file).opening there =
      if here = there ∧ here < disk.openings.size then file else disk.opening there :=
  getD_setIfInBounds ..

theorem node_setNode (disk : Disk) (here there : NodeId) (changed : Node) :
    (disk.setNode here changed).node there =
      if here = there ∧ here < disk.nodes.size then changed else disk.node there :=
  getD_setIfInBounds ..

/-- All openings but one are as before, and all nodes but its own, which it keeps. -/
structure ChangesAt (before : Disk) (opening : OpeningId) (after : Disk) : Prop where
  openings : ∀ id, id ≠ opening → after.opening id = before.opening id
  nodes : ∀ id, id ≠ (before.opening opening).node → after.node id = before.node id
  node : (after.opening opening).node = (before.opening opening).node

theorem changesAt_setOpening (openings : disk'.openings = disk.openings)
    (nodes : ∀ id, id ≠ (disk.opening opening).node → disk'.node id = disk.node id)
    (node : file.node = (disk.opening opening).node) :
    disk.ChangesAt opening (disk'.setOpening opening file) where
  openings id other := by
    rw [opening_setOpening, if_neg, Disk.opening, openings]
    · rfl
    · rintro ⟨rfl, _⟩
      exact other rfl
  nodes id other := nodes id other
  node := by
    rw [opening_setOpening]
    split
    · exact node
    · rw [Disk.opening, openings]
      rfl

theorem of_readFile (done : disk.readFile file limit = .ok (data, file', disk')) :
    file'.node = file.node ∧ disk'.openings = disk.openings ∧ disk'.nodes = disk.nodes := by
  rw [readFile] at done
  split at done
  · cases done
  · split at done <;> cases done
    exact ⟨rfl, rfl, rfl⟩

theorem node_cutShort (disk : Disk) (file : OpenFile) (limit : Nat) :
    (disk.cutShort file limit).node = file.node := by
  rw [cutShort]
  split
  · exact (of_readFile ‹_›).1
  · rfl

theorem of_writeFile (done : disk.writeFile file data = .ok (count, file', disk')) :
    file'.node = file.node ∧ disk'.openings = disk.openings ∧
      ∀ id, id ≠ file.node → disk'.node id = disk.node id := by
  rw [writeFile] at done
  split at done
  · cases done
  · split at done <;> cases done
    · exact ⟨rfl, rfl, fun _ _ => rfl⟩
    · refine ⟨rfl, rfl, fun id other => ?_⟩
      rw [node_setNode, if_neg]
      · rfl
      · rintro ⟨rfl, _⟩
        exact other rfl

end Disk

/-- A part of the machine beneath the services. -/
inductive Part where
  | opening (id : OpeningId)
  | node (id : NodeId)
  | endpoint (id : EndpointId)
  | listener (id : ListenerId)

namespace World

/-- A part of the machine that belongs to what a handle stands for. -/
inductive Belongs (world : World) : Holding → Part → Prop
  | opening {id : OpeningId} : Belongs world (.file id) (.opening id)
  | node {id : OpeningId} : Belongs world (.file id) (.node (world.disk.opening id).node)
  | stream {id : EndpointId} (isEnd : world.network.IsEnd endpoint id) :
      Belongs world (.stream endpoint) (.endpoint id)
  | request {id : EndpointId} (isEnd : world.network.IsEnd context.endpoint id) :
      Belongs world (.request context) (.endpoint id)
  | listener {id : ListenerId} : Belongs world (.listener id) (.listener id)

/-- A part of the machine is as before. -/
def Agrees (before after : World) : Part → Prop
  | .opening id => after.disk.opening id = before.disk.opening id
  | .node id => after.disk.node id = before.disk.node id
  | .endpoint id => after.network.endpoint id = before.network.endpoint id
  | .listener id => after.network.listener id = before.network.listener id

/-- Only what belongs to these resources is not as before, and the same still belongs to each. -/
structure TouchesOnly (holdings : List Holding) (before after : World) : Prop where
  agrees : ∀ part, (∀ holding ∈ holdings, ¬before.Belongs holding part) → before.Agrees after part
  belongs : ∀ holding part, after.Belongs holding part ↔ before.Belongs holding part

variable {holdings : List Holding} {before after : World}

private theorem Belongs.congr
    (nodes : ∀ id, (before.disk.opening id).node = (after.disk.opening id).node)
    (peers : ∀ id, (before.network.endpoint id).peer = (after.network.endpoint id).peer)
    (belongs : before.Belongs holding part) : after.Belongs holding part := by
  cases belongs with
  | opening => exact .opening
  | node =>
    rw [nodes]
    exact .node
  | stream isEnd =>
    rw [Network.IsEnd, peers] at isEnd
    exact .stream isEnd
  | request isEnd =>
    rw [Network.IsEnd, peers] at isEnd
    exact .request isEnd
  | listener => exact .listener

theorem TouchesOnly.of_network (disk : after.disk = before.disk)
    (changes : before.network.ChangesOnly
      (fun id => ∃ holding ∈ holdings, before.Belongs holding (.endpoint id))
      (fun id => .listener id ∈ holdings) after.network) :
    before.TouchesOnly holdings after := by
  refine ⟨fun part outside => ?_, fun holding part => ⟨?_, ?_⟩⟩
  · cases part with
    | opening id | node id => rw [Agrees, disk]
    | endpoint id =>
      refine changes.endpoint id fun inside => ?_
      obtain ⟨holding, member, belongs⟩ := inside
      exact outside holding member belongs
    | listener id => exact changes.listener id fun member => outside _ member .listener
  · exact Belongs.congr (fun id => by rw [disk]) changes.peer
  · exact Belongs.congr (fun id => by rw [disk]) fun id => (changes.peer id).symm

theorem TouchesOnly.of_disk (network : after.network = before.network)
    (changes : before.disk.ChangesAt opening after.disk) (member : .file opening ∈ holdings) :
    before.TouchesOnly holdings after := by
  have nodes : ∀ id, (after.disk.opening id).node = (before.disk.opening id).node := by
    intro id
    by_cases same : id = opening
    · rw [same, changes.node]
    · rw [changes.openings id same]
  refine ⟨fun part outside => ?_, fun holding part => ⟨?_, ?_⟩⟩
  · cases part with
    | opening id =>
      refine changes.openings id fun same => ?_
      subst same
      exact outside _ member .opening
    | node id =>
      refine changes.nodes id fun same => ?_
      subst same
      exact outside _ member .node
    | endpoint id | listener id => rw [Agrees, network]
  · exact Belongs.congr nodes fun id => by rw [network]
  · exact Belongs.congr (fun id => (nodes id).symm) fun id => by rw [network]

end World

/-- A call touches only what belongs to its resources, to which it adds the connections that it
takes off its listeners. While it waits the world moves by itself. -/
inductive Touches (moves : World → World → Prop) : List Holding → World → World → Prop
  | done : Touches moves holdings world world
  | moved (step : moves before between) (rest : Touches moves holdings between after) :
      Touches moves holdings before after
  | touched (step : before.TouchesOnly holdings between)
      (rest : Touches moves holdings between after) : Touches moves holdings before after
  | took (member : .listener listener ∈ holdings)
      (taken : before.network.accept? listener = some (endpoint, network))
      (rest : Touches moves (.stream endpoint :: holdings) { before with network } after) :
      Touches moves holdings before after

section

variable {moves : World → World → Prop} {env : Environment} {args : List Value}
  {holdings : List Holding} {before last after : World}

theorem Touches.of_network
    (changes : before.network.ChangesOnly
      (fun id => ∃ holding ∈ holdings, before.Belongs holding (.endpoint id))
      (fun id => .listener id ∈ holdings) after.network)
    (disk : after.disk = before.disk) : Touches moves holdings before after :=
  .touched (.of_network disk changes) .done

theorem Touches.of_disk (changes : before.disk.ChangesAt opening after.disk)
    (network : after.network = before.network) : Touches moves [.file opening] before after :=
  .touched (.of_disk network changes (.head _)) .done

theorem Waited.touches (waited : Waited moves before last)
    (rest : Touches moves holdings last after) : Touches moves holdings before after := by
  induction waited using Relation.ReflTransGen.head_induction_on with
  | refl => exact rest
  | head step _ ih => exact .moved step ih

theorem WaitedAt.touches (waited : WaitedAt moves before listener last)
    (member : .listener listener ∈ holdings) (rest : Touches moves holdings last after) :
    Touches moves holdings before after := by
  refine .touched ?_ (Waited.touches waited rest)
  exact .of_network rfl (Network.changesOnly_setListener member _)

theorem Connected.touches (connected : Connected moves env before listener endpoint deadline last)
    (member : .listener listener ∈ holdings)
    (rest : Touches moves (.stream endpoint :: holdings) last after) :
    Touches moves holdings before after := by
  obtain ⟨arriving, _, taken, _, sending⟩ := connected
  exact arriving.touches member (.took member taken (Waited.touches sending rest))

/-- The ends of a connection belong to it. -/
private theorem belongs_stream (member : .stream endpoint ∈ holdings) :
    ∀ other, before.network.IsEnd endpoint other →
      ∃ holding ∈ holdings, before.Belongs holding (.endpoint other) :=
  fun _ isEnd => ⟨_, member, .stream isEnd⟩

private theorem belongs_request (member : .request context ∈ holdings) :
    ∀ other, before.network.IsEnd context.endpoint other →
      ∃ holding ∈ holdings, before.Belongs holding (.endpoint other) :=
  fun _ isEnd => ⟨_, member, .request isEnd⟩

/-- Closing a resource touches it only. -/
theorem World.touchesOnly_closed (world : World) (kind : ResourceKind) (handle : Handle)
    (holding : Holding) : world.TouchesOnly [holding] (world.closed kind handle holding) := by
  have disk : (world.closed kind handle holding).disk = world.disk := by
    cases kind <;> rfl
  refine .of_network disk ?_
  cases holding with
  | file opening => exact .refl _
  | stream endpoint => exact Network.changesOnly_shutDown (belongs_stream (.head _))
  | listener socket => exact Network.changesOnly_setListener (.head _) _
  | request context => exact Network.changesOnly_shutDown (belongs_request (.head _))

/-- What a call does to a resource touches that resource only. -/
theorem Role.Acts.touches {role : Role}
    (acts : role.Acts moves env args before kind handle holding outcome after) :
    Touches moves [holding] before after := by
  cases acts with
  | readsNothing | writeFails | sendFails | tellsPort => exact .done
  | readsFile _ _ _ done =>
    obtain ⟨node, openings, nodes⟩ := Disk.of_readFile (step_of_onSystem done)
    refine .of_disk ?_ rfl
    exact Disk.changesAt_setOpening openings (fun id _ => Disk.node_of_nodes nodes id) node
  | readFails =>
    refine .of_disk ?_ rfl
    exact Disk.changesAt_setOpening rfl (fun _ _ => rfl) (Disk.node_cutShort ..)
  | writesFile _ _ done =>
    obtain ⟨node, openings, nodes⟩ := Disk.of_writeFile (step_of_onSystem done)
    refine .of_disk ?_ rfl
    exact Disk.changesAt_setOpening openings nodes node
  | receives _ _ _ waited done =>
    refine Waited.touches waited (.of_network ?_ rfl)
    exact Network.changesOnly_receive? done (belongs_stream (.head _) _ (.inl rfl))
  | sends _ _ done =>
    refine .of_network ?_ rfl
    exact Network.changesOnly_send done (belongs_stream (.head _))
  | acceptFails _ waited =>
    refine waited.touches (.head _) (.of_network ?_ rfl)
    exact Network.changesOnly_setListener (.head _) _
  | acceptsStream _ waited _ taken =>
    refine waited.touches (.head _) (.took (.head _) taken ?_)
    refine .of_network ?_ rfl
    exact Network.changesOnly_setListener (.tail _ (.head _)) _
  | acceptsRequest _ connected _ given =>
    obtain ⟨_, heap, rfl⟩ := of_requestValue given
    refine connected.touches (.head _) (.of_network ?_ rfl)
    exact Network.changesOnly_setListener (.tail _ (.head _)) _
  | rejects use connected failed decided =>
    rename_i error
    refine connected.touches (.head _) (.of_network ?_ rfl)
    refine (Network.changesOnly_reject _ error (belongs_stream (.head _))).trans ?_
    exact Network.changesOnly_setListener (.tail _ (.head _)) _
  | closes => exact .touched (before.touchesOnly_closed ..) .done
  | answers _ _ done =>
    refine .of_network ?_ rfl
    exact (Network.changesOnly_send done (belongs_request (.head _))).shutDown
      (belongs_request (.head _))
  | answerFails =>
    refine .of_network ?_ rfl
    exact Network.changesOnly_shutDown (belongs_request (.head _))

end

end ScriptHost
