import ScriptHost.Proofs.Http.RequestHead
import ScriptHost.Proofs.Service.HttpDelivered
import ScriptHost.Proofs.Service.HttpSpentHandle
import ScriptHost.Proofs.Service.HttpUndisturbed

/-! A connection gets one response at most. Its request is kept under one handle, one call takes the
handle and shuts the connection down, and whoever comes later with the handle is turned away. -/
namespace ScriptHost.HttpService

open Http (Head crlf)
open Network (EndpointId)

/-- What holds of one connection throughout. -/
structure ServedOnce (state : State) (endpoint : EndpointId) (connection : Connection) : Prop where
  /-- A request that was read has one handle, or its call is still about to keep it under one. -/
  oneHandle : connection.requests = [] ∧ connection.handles = [] ∨
    ∃ request, connection.requests = [request] ∧
      ((∃ handle, connection.handles = [handle]) ∨ connection.handles = [] ∧
        ∃ caller task, state.calls caller = some task ∧
          (task.stage = .parsed endpoint request ∨
            ∃ handle, task.stage = .namedRequest endpoint request handle))
  /-- Until the handle is taken, all that the answer takes is kept under it. -/
  answerable : connection.takers = [] → ∀ handle ∈ connection.handles, ∃ request,
    connection.requests = [request] ∧
      state.world.service.requests.get? handle = some (contextOf endpoint request)
  /-- One call at most takes the handle. -/
  oneTaker : connection.takers = [] ∨ ∃ caller handle task, connection.takers = [caller] ∧
    connection.handles = [handle] ∧ state.calls caller = some task ∧ task.call.Takes handle
  /-- One response at most is written: of the call that took the handle, and to this request. -/
  oneResponse : connection.written = [] ∨ ∃ sent, connection.written = [sent] ∧
    ∀ request ∈ connection.requests, ∃ caller handle status headers body stage,
      connection.takers = [caller] ∧ connection.handles = [handle] ∧
      state.calls caller = some ⟨.respond handle status headers body, stage⟩ ∧
      sent <+: (Http.Response.mk request.version status.toNat headers body).toBytes
        (Text.equalIgnoringCase request.method "HEAD") ∧
      (stage = .returned (.ok .done) →
        sent = (Http.Response.mk request.version status.toNat headers body).toBytes
          (Text.equalIgnoringCase request.method "HEAD"))
  /-- Once the call that took the handle has returned, the connection is shut down. -/
  shutDown : ∀ caller ∈ connection.takers, connection.shut = true ∨
    ∃ task, state.calls caller = some task ∧ ∀ outcome, task.stage ≠ .returned outcome

/-- What holds of a server in every state. -/
structure ServesOnce (limits : Http.Limits) (state : State) : Prop where
  disjoint : ∀ handle, ¬(state.world.service.listeners.contains handle = true ∧
    state.world.service.requests.contains handle = true)
  served : ∀ endpoint, ServedOnce state endpoint (state.world.connections endpoint)
  /-- A request that was kept under a handle has gone to a program with this handle. -/
  delivered : Delivered state
  /-- No two connections share a handle. -/
  ownHandle : ∀ first second handle, handle ∈ (state.world.connections first).handles →
    handle ∈ (state.world.connections second).handles → first = second
  /-- All that a respond can do if its arguments are bad is to say so. -/
  refused : ∀ caller handle status headers body,
    state.calls caller = some ⟨.respond handle status headers body, .called⟩ →
    ¬(100 ≤ status ∧ status ≤ 999) ∨ headers.validate ≠ .ok () →
    ∃ fault,
      (∀ network, state.world.service.respond network handle status headers body =
        (.error (.invalidArgument fault), state.world.service, network)) ∧
      ∀ state', state.Moves limits caller state' ↔ state' = state.proceed caller state.world
        ⟨.respond handle status headers body, .returned (.error (.invalidArgument fault))⟩
  /-- A request whose handle was not taken can still be answered. -/
  answerable : ∀ endpoint handle request caller (status : Int) headers body,
    handle ∈ (state.world.connections endpoint).handles →
    request ∈ (state.world.connections endpoint).requests →
    (state.world.connections endpoint).takers = [] → state.calls caller = none →
    100 ≤ status ∧ status ≤ 999 → headers.validate = .ok () →
    ∃ state', State.Run limits state state' ∧
      (state'.world.connections endpoint).takers = [caller] ∧
      (state'.world.connections endpoint).written =
        (state.world.connections endpoint).written ++
          [(Http.Response.mk request.version status.toNat headers body).toBytes
            (Text.equalIgnoringCase request.method "HEAD")] ∧
      (state'.world.connections endpoint).shut = true
  /-- A handle that was taken is turned away ever after: by the service as it stands at any later
  time, and in every call that has found nothing under it so far. -/
  gone : ∀ endpoint handle state', handle ∈ (state.world.connections endpoint).handles →
    (state.world.connections endpoint).takers ≠ [] → State.Run limits state state' →
    TurnedAway state'.world.service handle ∧
    ∀ caller, (∀ task, state.calls caller = some task → task.NotServed handle) →
      ∀ task, state'.calls caller = some task → task.NotServed handle

variable {fate : Handle → Fate} {place : EndpointId → Place} {state : State}

theorem Answers.takes (answers : Answers handle request call outcome written) :
    call.Takes handle := by
  cases answers with
  | dropped => rfl
  | answered checked valid => exact ⟨rfl, (statusOf_eq_ok_iff.mp checked).1, valid⟩

/-- What a taken request's call has written is one response at most. -/
theorem Answers.oneResponse {caller : CallId} {stage : Stage}
    (answers : Answers handle request call outcome written)
    (made : state.calls caller = some ⟨call, stage⟩)
    (returned : stage = .returned (.ok .done) → outcome = .ok .done) :
    written = [] ∨ ∃ sent, written = [sent] ∧
      ∀ asked ∈ [request], ∃ caller' handle' status headers body stage',
        [caller] = [caller'] ∧ [handle] = [handle'] ∧
        state.calls caller' = some ⟨.respond handle' status headers body, stage'⟩ ∧
        sent <+: (Http.Response.mk asked.version status.toNat headers body).toBytes
          (Text.equalIgnoringCase asked.method "HEAD") ∧
        (stage' = .returned (.ok .done) →
          sent = (Http.Response.mk asked.version status.toNat headers body).toBytes
            (Text.equalIgnoringCase asked.method "HEAD")) := by
  cases answers with
  | dropped => exact .inl rfl
  | answered checked valid start whole =>
    obtain ⟨_, rfl⟩ := statusOf_eq_ok_iff.mp checked
    refine .inr ⟨_, rfl, ?_⟩
    intro asked member
    obtain rfl := List.mem_singleton.mp member
    exact ⟨caller, handle, _, _, _, stage, rfl, rfl, made, start, fun done => whole (returned done)⟩

section
variable {endpoint : EndpointId}

theorem ServedOnce.unparsed {accepted shut : Bool} (few : written.length ≤ 1) :
    ServedOnce state endpoint { accepted := accepted, written := written, shut := shut } := by
  refine ⟨.inl ⟨rfl, rfl⟩, nofun, .inl rfl, ?_, nofun⟩
  match written, few with
  | [], _ => exact .inl rfl
  | [sent], _ => exact .inr ⟨sent, rfl, nofun⟩

/-- The call that read the request is about to keep it. -/
theorem ServedOnce.unkept {caller : CallId} {task : Task}
    (running : state.calls caller = some task)
    (parsed : task.stage = .parsed endpoint request ∨
      ∃ handle, task.stage = .namedRequest endpoint request handle) :
    ServedOnce state endpoint { accepted := true, requests := [request] } where
  oneHandle := .inr ⟨request, rfl, .inr ⟨rfl, caller, task, running, parsed⟩⟩
  answerable := nofun
  oneTaker := .inl rfl
  oneResponse := .inl rfl
  shutDown := nofun

theorem ServedOnce.untaken
    (kept : state.world.service.requests.get? handle = some (contextOf endpoint request)) :
    ServedOnce state endpoint
      { accepted := true, requests := [request], handles := [handle] } where
  oneHandle := .inr ⟨request, rfl, .inl ⟨handle, rfl⟩⟩
  answerable := by
    intro untaken other member
    obtain rfl := List.mem_singleton.mp member
    exact ⟨request, rfl, kept⟩
  oneTaker := .inl rfl
  oneResponse := .inl rfl
  shutDown := nofun

theorem ServedOnce.unanswered {caller : CallId} {task : Task}
    (running : state.calls caller = some task) (takes : task.call.Takes handle)
    (unfinished : ∀ outcome, task.stage ≠ .returned outcome) :
    ServedOnce state endpoint
      { accepted := true, requests := [request], handles := [handle], takers := [caller] } where
  oneHandle := .inr ⟨request, rfl, .inl ⟨handle, rfl⟩⟩
  answerable := nofun
  oneTaker := .inr ⟨caller, handle, task, rfl, rfl, running, takes⟩
  oneResponse := .inl rfl
  shutDown := by
    intro taker member
    obtain rfl := List.mem_singleton.mp member
    exact .inr ⟨task, running, unfinished⟩

theorem Answers.servedOnce {caller : CallId} {stage : Stage} {shut : Bool}
    (answers : Answers handle request call outcome written)
    (made : state.calls caller = some ⟨call, stage⟩)
    (returned : stage = .returned (.ok .done) → outcome = .ok .done)
    (closed : shut = true ∨ ∀ outcome, stage ≠ .returned outcome) :
    ServedOnce state endpoint
      { accepted := true, requests := [request], handles := [handle], takers := [caller],
        written := written, shut := shut } where
  oneHandle := .inr ⟨request, rfl, .inl ⟨handle, rfl⟩⟩
  answerable := nofun
  oneTaker := .inr ⟨caller, handle, _, rfl, rfl, made, answers.takes⟩
  oneResponse := answers.oneResponse made returned
  shutDown := by
    intro taker member
    obtain rfl := List.mem_singleton.mp member
    rcases closed with down | unfinished
    · exact .inl down
    · exact .inr ⟨_, made, unfinished⟩

theorem Held.servedOnce {caller : CallId} {task : Task} {connection : Connection}
    (held : Held fate caller endpoint task.call task.stage connection)
    (running : state.calls caller = some task) : ServedOnce state endpoint connection := by
  obtain ⟨call, stage⟩ := task
  cases held with
  | reading | unreadable | rejecting => exact .unparsed (Nat.zero_le 1)
  | parsed => exact .unkept running (.inl rfl)
  | named => exact .unkept running (.inr ⟨_, rfl⟩)
  | answering checked valid taken known =>
    exact .unanswered running ⟨rfl, (statusOf_eq_ok_iff.mp checked).1, valid⟩ nofun
  | refused few => exact .unparsed few
  | served taken answers => exact answers.servedOnce running nofun (.inr nofun)

theorem Finished.servedOnce {connection : Connection}
    (ended : Finished fate state.calls endpoint connection) :
    ServedOnce state endpoint connection := by
  cases ended with
  | refused few => exact .unparsed few
  | served returned taken answers =>
    exact answers.servedOnce returned (fun same => Stage.returned.inj same) (.inl rfl)

theorem Sound.servedOnce (sound : Sound fate place state) (endpoint : EndpointId) :
    ServedOnce state endpoint (state.world.connections endpoint) := by
  have situation := sound.recorded endpoint
  generalize place endpoint = situated at situation
  generalize state.world.connections endpoint = connection at situation
  cases situation with
  | unseen => exact .unparsed (Nat.zero_le 1)
  | inCall running held => exact held.servedOnce running
  | waiting kept => exact .untaken kept
  | finished ended => exact ended.servedOnce

end

theorem Sound.disjoint (sound : Sound fate place state) (handle : Handle) :
    ¬(state.world.service.listeners.contains handle = true ∧
      state.world.service.requests.contains handle = true) := by
  intro both
  obtain ⟨listener, listens⟩ := Option.isSome_iff_exists.mp both.1
  obtain ⟨context, waits⟩ := Option.isSome_iff_exists.mp both.2
  have named := sound.listening handle listener listens
  have same := named.symm.trans (sound.waiting handle context waits).1
  contradiction

theorem Held.answered {caller : CallId} {stage : Stage} {connection : Connection}
    (held : Held fate caller endpoint call stage connection)
    (member : handle ∈ connection.handles) : fate handle = .answered endpoint := by
  cases held with
  | answering checked valid taken | served taken =>
    obtain rfl := List.mem_singleton.mp member
    exact taken
  | _ => contradiction

theorem Finished.answered {calls : CallId → Option Task} {connection : Connection}
    (ended : Finished fate calls endpoint connection) (member : handle ∈ connection.handles) :
    fate handle = .answered endpoint := by
  cases ended with
  | refused few => contradiction
  | served returned taken =>
    obtain rfl := List.mem_singleton.mp member
    exact taken

/-- The handle of a connection's request is bound to that connection for good. -/
theorem Sound.fate_of_mem (sound : Sound fate place state)
    (member : handle ∈ (state.world.connections endpoint).handles) :
    fate handle = .waiting endpoint ∧ (state.world.connections endpoint).takers = [] ∨
      fate handle = .answered endpoint := by
  have situation := sound.recorded endpoint
  generalize place endpoint = situated at situation
  generalize state.world.connections endpoint = connection at member situation
  cases situation with
  | unseen => contradiction
  | inCall running held => exact .inr (held.answered member)
  | waiting kept =>
    obtain rfl := List.mem_singleton.mp member
    exact .inl ⟨(sound.waiting _ _ kept).1, rfl⟩
  | finished ended => exact .inr (ended.answered member)

theorem Sound.ownHandle {first second : EndpointId} (sound : Sound fate place state)
    (left : handle ∈ (state.world.connections first).handles)
    (right : handle ∈ (state.world.connections second).handles) : first = second := by
  rcases sound.fate_of_mem left with ⟨here, _⟩ | here <;>
    rcases sound.fate_of_mem right with ⟨there, _⟩ | there
  · exact Fate.waiting.inj (here.symm.trans there)
  · cases here.symm.trans there
  · cases here.symm.trans there
  · exact Fate.answered.inj (here.symm.trans there)

/-- What a respond checks before it looks for the request. -/
theorem refusal_of_bad {status : Int} {headers : Http.Headers}
    (bad : ¬(100 ≤ status ∧ status ≤ 999) ∨ headers.validate ≠ .ok ()) :
    ∃ fault, Http.statusOf status = .error (.invalidArgument fault) ∨
      (∃ code, Http.statusOf status = .ok code) ∧
        headers.validate = .error (.invalidArgument fault) := by
  by_cases inside : 100 ≤ status ∧ status ≤ 999
  · have invalid := bad.resolve_left (not_not_intro inside)
    rw [Http.Headers.validate] at invalid ⊢
    split at invalid
    · rename_i fault found
      exact ⟨fault, .inr ⟨⟨status.toNat, statusOf_eq_ok_iff.mpr ⟨inside, rfl⟩⟩, rfl⟩⟩
    · exact absurd rfl invalid
  · refine ⟨.statusOutOfRange status, .inl ?_⟩
    rw [Http.statusOf, if_neg inside]

theorem Advance.refused_iff
    (refused : Http.statusOf status = .error error ∨
      (∃ code, Http.statusOf status = .ok code) ∧ headers.validate = .error error) :
    Advance limits caller world (.respond handle status headers body) .called world' next ↔
      world' = world ∧ next = .returned (.error error) := by
  constructor
  · intro advance
    rcases refused with badStatus | ⟨⟨code, checked⟩, badHeaders⟩
    · cases advance with
      | look seen =>
        cases seen with
        | badStatus refused => exact ⟨rfl, by rw [Except.error.inj (badStatus.symm.trans refused)]⟩
        | badHeaders checked | noRequest checked => cases badStatus.symm.trans checked
      | take checked => cases badStatus.symm.trans checked
    · cases advance with
      | look seen =>
        cases seen with
        | badStatus refused => cases checked.symm.trans refused
        | badHeaders _ refused =>
          exact ⟨rfl, by rw [Except.error.inj (badHeaders.symm.trans refused)]⟩
        | noRequest _ valid => cases badHeaders.symm.trans valid
      | take _ valid => cases badHeaders.symm.trans valid
  · intro same
    obtain ⟨rfl, rfl⟩ := same
    rcases refused with badStatus | ⟨⟨code, checked⟩, badHeaders⟩
    · exact .look (.badStatus badStatus)
    · exact .look (.badHeaders checked badHeaders)

theorem State.refused {caller : CallId} {status : Int}
    (running : state.calls caller = some ⟨.respond handle status headers body, .called⟩)
    (bad : ¬(100 ≤ status ∧ status ≤ 999) ∨ headers.validate ≠ .ok ()) :
    ∃ fault,
      (∀ network, state.world.service.respond network handle status headers body =
        (.error (.invalidArgument fault), state.world.service, network)) ∧
      ∀ state', state.Moves limits caller state' ↔ state' = state.proceed caller state.world
        ⟨.respond handle status headers body, .returned (.error (.invalidArgument fault))⟩ := by
  obtain ⟨fault, refused⟩ := refusal_of_bad bad
  refine ⟨fault, ?_, fun state' => ?_⟩
  · intro network
    rcases refused with badStatus | ⟨⟨code, checked⟩, badHeaders⟩
    · simp only [HttpService.respond, badStatus]
    · simp only [HttpService.respond, checked, badHeaders]
  constructor
  · intro moves
    obtain ⟨same, advance⟩ := moves
    obtain rfl := Option.some.inj (running.symm.trans same)
    obtain ⟨rfl, rfl⟩ := (Advance.refused_iff refused).mp advance
    rfl
  · intro same
    subst same
    exact .intro running ((Advance.refused_iff refused).mpr ⟨rfl, rfl⟩)

theorem Sound.answerable {endpoint : EndpointId} {status : Int}
    (sound : Sound fate place state) (limits : Http.Limits) (body : Bytes)
    (kept : handle ∈ (state.world.connections endpoint).handles)
    (read : request ∈ (state.world.connections endpoint).requests)
    (untaken : (state.world.connections endpoint).takers = []) (idle : state.calls caller = none)
    (inside : 100 ≤ status ∧ status ≤ 999) (valid : headers.validate = .ok ()) :
    ∃ state', State.Run limits state state' ∧
      (state'.world.connections endpoint).takers = [caller] ∧
      (state'.world.connections endpoint).written =
        (state.world.connections endpoint).written ++
          [(Http.Response.mk request.version status.toNat headers body).toBytes
            (Text.equalIgnoringCase request.method "HEAD")] ∧
      (state'.world.connections endpoint).shut = true := by
  obtain ⟨asked, single, found⟩ := (sound.servedOnce endpoint).answerable untaken handle kept
  rw [single] at read
  obtain rfl := List.mem_singleton.mp read
  have checked := statusOf_eq_ok_iff.mpr ⟨inside, rfl⟩
  obtain ⟨world, answers, answered⟩ := undisturbed_answer caller found checked valid body
  rw [show (contextOf endpoint request).endpoint = endpoint from rfl, untaken] at answered
  refine ⟨_, answers.start idle, ?_⟩
  rw [State.world_proceed, answered]
  exact ⟨rfl, rfl, rfl⟩

theorem Sound.gone {endpoint : EndpointId} (sound : Sound fate place state)
    (member : handle ∈ (state.world.connections endpoint).handles)
    (taken : (state.world.connections endpoint).takers ≠ []) : Spent state handle := by
  rcases sound.fate_of_mem member with ⟨_, untaken⟩ | answered
  · contradiction
  · exact sound.spent answered

/-- In whatever order the calls take their steps, and whatever peers and system answer, each
connection gets one response at most. -/
theorem servesOnce_of_reachable (limits : Http.Limits) (state : State)
    (reachable : State.Reachable limits state) : ServesOnce limits state := by
  obtain ⟨fate, place, sound⟩ := invariant_initial.run reachable
  refine ⟨sound.disjoint, sound.servedOnce, delivered_of_reachable reachable, ?_, ?_, ?_, ?_⟩
  · intro first second handle left right
    exact sound.ownHandle left right
  · intro caller handle status headers body running bad
    exact state.refused running bad
  · intro endpoint handle request caller status headers body kept read untaken idle inside valid
    exact sound.answerable limits body kept read untaken idle inside valid
  · intro endpoint handle state' member taken run
    obtain ⟨spent, turned⟩ := (sound.gone member taken).run run
    exact ⟨spent.turnedAway, turned⟩

theorem servesOnce_of_served :
    let request := (Head.mk 0 "HEAD" "/" .http11 []).request []
    let sent := Text.toBytes "HTTP/1.1 200 OK\r\nContent-Length: 2\r\nConnection: close\r\n\r\n"
    ∃ state handle, State.Reachable {} state ∧
      state.world.connections 7 =
        { accepted := true, requests := [request], handles := [handle], takers := [2],
          written := [sent], shut := true } ∧
      ServesOnce {} state := by
  intro request sent
  have accepted : (Head.mk 0 "HEAD" "/" .http11 []).Accepted {} (crlf ["HEAD / HTTP/1.1", ""]) :=
    ⟨by decide, by decide, by decide, by decide, Http.lines_crlf (by decide), by decide⟩
  have arrived : Http.patientSource 0 [⟨.data (crlf ["HEAD / HTTP/1.1", ""]), 0, true⟩] =
      (Http.Source.mk [] (.failed Http.undecided)).behind (crlf ["HEAD / HTTP/1.1", ""]) := by rfl
  have read : Http.readRequest {}
      (Http.patientSource 0 [⟨.data (crlf ["HEAD / HTTP/1.1", ""]), 0, true⟩]) =
        .ok (request, ⟨[], .failed Http.undecided⟩) := by
    rw [arrived, Http.readRequest_of_accepted accepted]
    rfl
  have checked : Http.statusOf 200 = .ok 200 := rfl
  have valid : Http.Headers.validate SortedMap.empty = .ok () := rfl
  obtain ⟨state, handle, reachable, record⟩ :=
    exists_reachable_served read (by decide) checked valid 7 (Text.toBytes "hi")
  have written :
      (responseTo request 200 SortedMap.empty (Text.toBytes "hi")).toBytes true = sent := by
    decide
  have headOnly : Text.equalIgnoringCase request.method "HEAD" = true := by decide
  rw [headOnly, written] at record
  exact ⟨state, handle, reachable, record, servesOnce_of_reachable {} state reachable⟩

end ScriptHost.HttpService
