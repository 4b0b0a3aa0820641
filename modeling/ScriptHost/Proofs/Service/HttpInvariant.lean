import ScriptHost.Proofs.Service.HttpCalls

/-! Every handle and every connection of a server is in one place at a time. The invariant assigns
each its place and says what the record of a connection holds there; no step of a call breaks it. -/
namespace ScriptHost.HttpService

open Network (EndpointId ListenerId)

/-- What has become of a handle. -/
inductive Fate where
  | fresh
  | named (caller : CallId)
  | listening
  | closed
  | waiting (endpoint : EndpointId)
  | answered (endpoint : EndpointId)

/-- Where a connection is. -/
inductive Place where
  | unseen
  | inCall (caller : CallId)
  | waiting (handle : Handle)
  | finished

/-- The handle that a call is about to keep something under. -/
def Stage.handle? : Stage → Option Handle
  | .namedListener _ handle | .namedRequest _ _ handle => some handle
  | _ => none

/-- The connection that a call has in hand. -/
def Stage.endpoint? : Stage → Option EndpointId
  | .reading endpoint _ _ | .unreadable endpoint _ | .rejecting endpoint _ | .parsed endpoint _
  | .namedRequest endpoint _ _ | .ending endpoint _ => some endpoint
  | .answering context _ => some context.endpoint
  | _ => none

/-- The response to a request. -/
def responseTo (request : Http.Request) (status : Nat) (headers : Http.Headers) (body : Bytes) :
    Http.Response := ⟨request.version, status, headers, body⟩

/-- What the call that took a request has written: nothing if it dropped the request, and otherwise
the response or, if the call failed, what got through of it. -/
inductive Answers (handle : Handle) (request : Http.Request) :
    Call → Except HostError Reply → List Bytes → Prop where
  | dropped : Answers handle request (.close handle) outcome []
  | answered (checked : Http.statusOf status = .ok code) (valid : headers.validate = .ok ())
      (start : sent <+: (responseTo request code headers body).toBytes
        (Text.equalIgnoringCase request.method "HEAD"))
      (whole : outcome = .ok .done → sent = (responseTo request code headers body).toBytes
        (Text.equalIgnoringCase request.method "HEAD")) :
      Answers handle request (.respond handle status headers body) outcome [sent]

variable (fate : Handle → Fate)

/-- The record of a connection that a call has in hand. -/
inductive Held (caller : CallId) (endpoint : EndpointId) : Call → Stage → Connection → Prop where
  | reading : Held caller endpoint call (.reading endpoint deadline reads) { accepted := true }
  | unreadable : Held caller endpoint call (.unreadable endpoint error) { accepted := true }
  | rejecting : Held caller endpoint call (.rejecting endpoint error) { accepted := true }
  | parsed : Held caller endpoint call (.parsed endpoint request)
      { accepted := true, requests := [request] }
  | named : Held caller endpoint call (.namedRequest endpoint request handle)
      { accepted := true, requests := [request] }
  | answering (checked : Http.statusOf status = .ok code) (valid : headers.validate = .ok ())
      (taken : fate handle = .answered endpoint) (known : context = contextOf endpoint request) :
      Held caller endpoint (.respond handle status headers body)
        (.answering context (responseTo request code headers body))
        { accepted := true, requests := [request], handles := [handle], takers := [caller] }
  | refused (few : written.length ≤ 1) :
      Held caller endpoint call (.ending endpoint outcome) { accepted := true, written := written }
  | served (taken : fate handle = .answered endpoint)
      (answers : Answers handle request call outcome written) :
      Held caller endpoint call (.ending endpoint outcome)
        { accepted := true, requests := [request], handles := [handle], takers := [caller],
          written := written }

/-- The record of a connection that is done with. -/
inductive Finished (calls : CallId → Option Task) (endpoint : EndpointId) : Connection → Prop where
  | refused (few : written.length ≤ 1) :
      Finished calls endpoint { accepted := true, written := written, shut := shut }
  | served (returned : calls caller = some ⟨call, .returned outcome⟩)
      (taken : fate handle = .answered endpoint)
      (answers : Answers handle request call outcome written) :
      Finished calls endpoint
        { accepted := true, requests := [request], handles := [handle], takers := [caller],
          written := written, shut := true }

/-- The record of a connection by its place. -/
inductive Situation (state : State) (endpoint : EndpointId) : Place → Connection → Prop where
  | unseen : Situation state endpoint .unseen {}
  | inCall (running : state.calls caller = some task)
      (held : Held fate caller endpoint task.call task.stage connection) :
      Situation state endpoint (.inCall caller) connection
  | waiting (kept : state.world.service.requests.get? handle = some (contextOf endpoint request)) :
      Situation state endpoint (.waiting handle)
        { accepted := true, requests := [request], handles := [handle] }
  | finished (ended : Finished fate state.calls endpoint connection) :
      Situation state endpoint .finished connection

/-- Tables, calls and records agree with one assignment of fates and places. -/
structure Sound (place : EndpointId → Place) (state : State) : Prop where
  issued : state.world.service.ids.issued < UInt64.size
  fresh : ∀ handle, state.world.service.ids.issued < handle.id → fate handle = .fresh
  listening : ∀ handle listener, state.world.service.listeners.get? handle = some listener →
    fate handle = .listening
  waiting : ∀ handle context, state.world.service.requests.get? handle = some context →
    fate handle = .waiting context.endpoint ∧ place context.endpoint = .waiting handle
  named : ∀ caller task handle, state.calls caller = some task → task.stage.handle? = some handle →
    fate handle = .named caller
  inHand : ∀ caller task endpoint, state.calls caller = some task →
    task.stage.endpoint? = some endpoint → place endpoint = .inCall caller
  recorded : ∀ endpoint,
    Situation fate state endpoint (place endpoint) (state.world.connections endpoint)

/-- The state has a sound assignment. -/
def Invariant (state : State) : Prop := ∃ fate place, Sound fate place state

variable {fate}

theorem Held.endpoint? (held : Held fate caller endpoint call stage connection) :
    stage.endpoint? = some endpoint := by
  cases held with
  | answering _ _ _ known =>
    subst known
    rfl
  | _ => rfl

theorem Held.accepted (held : Held fate caller endpoint call stage connection) :
    connection.accepted = true := by
  cases held <;> rfl

theorem Held.mono {fate' : Handle → Fate} (held : Held fate caller endpoint call stage connection)
    (kept : ∀ handle, fate handle = .answered endpoint → fate' handle = .answered endpoint) :
    Held fate' caller endpoint call stage connection := by
  cases held with
  | reading => exact .reading
  | unreadable => exact .unreadable
  | rejecting => exact .rejecting
  | parsed => exact .parsed
  | named => exact .named
  | answering checked valid taken known => exact .answering checked valid (kept _ taken) known
  | refused few => exact .refused few
  | served taken answers => exact .served (kept _ taken) answers

theorem Finished.mono {fate' : Handle → Fate} {calls calls' : CallId → Option Task}
    (ended : Finished fate calls endpoint connection)
    (kept : ∀ handle, fate handle = .answered endpoint → fate' handle = .answered endpoint)
    (returned : ∀ caller call outcome, calls caller = some ⟨call, .returned outcome⟩ →
      calls' caller = some ⟨call, .returned outcome⟩) :
    Finished fate' calls' endpoint connection := by
  cases ended with
  | refused few => exact .refused few
  | served done taken answers => exact .served (returned _ _ _ done) (kept _ taken) answers

@[simp] theorem World.service_note (world : World) (endpoint : EndpointId)
    (change : Connection → Connection) : (world.note endpoint change).service = world.service := rfl

@[simp] theorem World.connections_note_self (world : World) (endpoint : EndpointId)
    (change : Connection → Connection) :
    (world.note endpoint change).connections endpoint = change (world.connections endpoint) := by
  simp [note]

theorem World.connections_note_of_ne {endpoint other : EndpointId} (different : other ≠ endpoint)
    (world : World) (change : Connection → Connection) :
    (world.note endpoint change).connections other = world.connections other := by
  simp [note, different]

@[simp] theorem State.world_proceed (state : State) (caller : CallId) (world : World)
    (task : Task) : (state.proceed caller world task).world = world := rfl

@[simp] theorem State.calls_proceed_self (state : State) (caller : CallId) (world : World)
    (task : Task) : (state.proceed caller world task).calls caller = some task := by
  simp [proceed]

@[simp] theorem State.proceed_proceed (state : State) (caller : CallId) (world world' : World)
    (task task' : Task) : (state.proceed caller world task).proceed caller world' task' =
      state.proceed caller world' task' := by
  simp only [proceed, Function.update_idem]

theorem State.calls_proceed_of_ne {caller other : CallId} (different : other ≠ caller)
    (state : State) (world : World) (task : Task) :
    (state.proceed caller world task).calls other = state.calls other := by
  simp [proceed, different]

theorem Advance.unfinished (advance : Advance limits caller world call stage world' next)
    (outcome : Except HostError Reply) : stage ≠ .returned outcome := by
  cases advance with
  | look seen => cases seen <;> nofun
  | _ => nofun

theorem State.unfinished {state : State} {before after : World} {task : Task}
    (running : state.calls caller = some task)
    (advance : Advance limits caller before task.call task.stage after next) (call : Call)
    (outcome : Except HostError Reply) : state.calls caller ≠ some ⟨call, .returned outcome⟩ := by
  intro same
  obtain rfl := Option.some.inj (running.symm.trans same)
  exact advance.unfinished outcome rfl

section
variable {fate' : Handle → Fate} {place place' : EndpointId → Place} {state : State}
  {world : World} {task : Task} {caller : CallId}

/-- A connection that a step of a call does not touch stays what it is. -/
theorem Situation.frame {endpoint : EndpointId} {situated : Place} {connection : Connection}
    (situation : Situation fate state endpoint situated connection)
    (other : situated ≠ .inCall caller)
    (unfinished : ∀ call outcome, state.calls caller ≠ some ⟨call, .returned outcome⟩)
    (answered : ∀ handle, fate handle = .answered endpoint → fate' handle = .answered endpoint)
    (kept : ∀ handle context, situated = .waiting handle →
      state.world.service.requests.get? handle = some context →
        world.service.requests.get? handle = some context) :
    Situation fate' (state.proceed caller world task) endpoint situated connection := by
  cases situation with
  | unseen => exact .unseen
  | @inCall holder _ _ running held =>
    have different : holder ≠ caller := fun same => other (congrArg Place.inCall same)
    refine .inCall ?_ (held.mono answered)
    rw [State.calls_proceed_of_ne different, running]
  | waiting present => exact .waiting (kept _ _ rfl present)
  | finished ended =>
    refine .finished (ended.mono answered ?_)
    intro holder call outcome returned
    have different : holder ≠ caller := fun same => unfinished call outcome (same ▸ returned)
    rw [State.calls_proceed_of_ne different, returned]

/-- What a step of a call has to show. Whatever belongs to other calls stays as it is; the tables,
the call itself and each connection that is touched are shown to agree with the new assignment. -/
theorem Sound.proceed (sound : Sound fate place state)
    (unfinished : ∀ call outcome, state.calls caller ≠ some ⟨call, .returned outcome⟩)
    (others : ∀ other handle, other ≠ caller → fate handle = .named other →
      fate' handle = .named other)
    (hands : ∀ other endpoint, other ≠ caller → place endpoint = .inCall other →
      place' endpoint = .inCall other)
    (answered : ∀ endpoint handle, fate handle = .answered endpoint →
      fate' handle = .answered endpoint)
    (issued : world.service.ids.issued < UInt64.size)
    (fresh : ∀ handle, world.service.ids.issued < handle.id → fate' handle = .fresh)
    (listening : ∀ handle listener, world.service.listeners.get? handle = some listener →
      fate' handle = .listening)
    (waiting : ∀ handle context, world.service.requests.get? handle = some context →
      fate' handle = .waiting context.endpoint ∧ place' context.endpoint = .waiting handle)
    (named : ∀ handle, task.stage.handle? = some handle → fate' handle = .named caller)
    (inHand : ∀ endpoint, task.stage.endpoint? = some endpoint →
      place' endpoint = .inCall caller)
    (recorded : ∀ endpoint,
      (place' endpoint = place endpoint ∧
        world.connections endpoint = state.world.connections endpoint ∧
        place endpoint ≠ .inCall caller ∧
        ∀ handle context, place endpoint = .waiting handle →
          state.world.service.requests.get? handle = some context →
            world.service.requests.get? handle = some context) ∨
      Situation fate' (state.proceed caller world task) endpoint (place' endpoint)
        (world.connections endpoint)) :
    Sound fate' place' (state.proceed caller world task) := by
  refine ⟨issued, fresh, listening, waiting, ?_, ?_, ?_⟩
  · intro other task' handle running owned
    by_cases same : other = caller
    · subst same
      rw [State.calls_proceed_self] at running
      obtain rfl := Option.some.inj running
      exact named handle owned
    · rw [State.calls_proceed_of_ne same] at running
      exact others other handle same (sound.named other task' handle running owned)
  · intro other task' endpoint running owned
    by_cases same : other = caller
    · subst same
      rw [State.calls_proceed_self] at running
      obtain rfl := Option.some.inj running
      exact inHand endpoint owned
    · rw [State.calls_proceed_of_ne same] at running
      exact hands other endpoint same (sound.inHand other task' endpoint running owned)
  · intro endpoint
    rcases recorded endpoint with ⟨samePlace, sameRecord, other, kept⟩ | situation
    · rw [samePlace, State.world_proceed, sameRecord]
      exact (sound.recorded endpoint).frame other unfinished (answered endpoint) kept
    · exact situation

/-- A step that leaves the world alone. -/
theorem Sound.keep (sound : Sound fate place state)
    (unfinished : ∀ call outcome, state.calls caller ≠ some ⟨call, .returned outcome⟩)
    (named : ∀ handle, task.stage.handle? = some handle → fate handle = .named caller)
    (inHand : ∀ endpoint, task.stage.endpoint? = some endpoint → place endpoint = .inCall caller)
    (held : ∀ endpoint, place endpoint = .inCall caller →
      Held fate caller endpoint task.call task.stage (state.world.connections endpoint)) :
    Sound fate place (state.proceed caller state.world task) := by
  refine sound.proceed unfinished (fun _ _ _ same => same) (fun _ _ _ same => same)
    (fun _ _ same => same) sound.issued sound.fresh sound.listening sound.waiting named inHand ?_
  intro endpoint
  by_cases mine : place endpoint = .inCall caller
  · rw [mine]
    exact .inr (.inCall (State.calls_proceed_self state caller _ task) (held endpoint mine))
  · exact .inl ⟨rfl, rfl, mine, fun _ _ _ present => present⟩

/-- A step that touches the record of one connection, which its call has in hand or has just got,
and leaves the service alone. -/
theorem Sound.change {endpoint : EndpointId} {situated : Place} {change : Connection → Connection}
    (sound : Sound fate place state)
    (unfinished : ∀ call outcome, state.calls caller ≠ some ⟨call, .returned outcome⟩)
    (before : place endpoint = .inCall caller ∨ place endpoint = .unseen)
    (single : ∀ other, place other = .inCall caller → other = endpoint)
    (named : ∀ handle, task.stage.handle? = some handle → fate handle = .named caller)
    (inHand : ∀ other, task.stage.endpoint? = some other →
      other = endpoint ∧ situated = .inCall caller)
    (situation : Situation fate
      (state.proceed caller (state.world.note endpoint change) task) endpoint situated
      (change (state.world.connections endpoint))) :
    Sound fate (Function.update place endpoint situated)
      (state.proceed caller (state.world.note endpoint change) task) := by
  have elsewhere (other : EndpointId) (different : place other ≠ .inCall caller)
      (seen : place other ≠ .unseen) : other ≠ endpoint := by
    intro same
    subst same
    rcases before with mine | unseen
    · exact different mine
    · exact seen unseen
  refine sound.proceed unfinished (fun _ _ _ same => same) ?_ (fun _ _ same => same) sound.issued
    sound.fresh sound.listening ?_ named ?_ ?_
  · intro other held different owned
    have apart : held ≠ endpoint :=
      elsewhere held (by simpa [owned] using different) (by simp [owned])
    rw [Function.update_of_ne apart, owned]
  · intro handle context present
    obtain ⟨kept, waits⟩ := sound.waiting handle context present
    have apart : context.endpoint ≠ endpoint := elsewhere _ (by simp [waits]) (by simp [waits])
    rw [Function.update_of_ne apart]
    exact ⟨kept, waits⟩
  · intro other owned
    obtain ⟨rfl, rfl⟩ := inHand other owned
    exact Function.update_self ..
  · intro other
    by_cases same : other = endpoint
    · subst same
      refine .inr ?_
      rw [Function.update_self, World.connections_note_self]
      exact situation
    · refine .inl ⟨Function.update_of_ne same .., World.connections_note_of_ne same .., ?_, ?_⟩
      · exact fun mine => same (single other mine)
      · exact fun _ _ _ present => present

end

theorem Sound.endpoint?_of_inCall {place : EndpointId → Place} {state : State}
    (sound : Sound fate place state) (running : state.calls caller = some task)
    (holds : place endpoint = .inCall caller) : task.stage.endpoint? = some endpoint := by
  have situation := sound.recorded endpoint
  rw [holds] at situation
  cases situation with
  | inCall same held =>
    obtain rfl := Option.some.inj (running.symm.trans same)
    exact held.endpoint?

theorem Sound.held {place : EndpointId → Place} {state : State} (sound : Sound fate place state)
    (running : state.calls caller = some task) (owned : task.stage.endpoint? = some endpoint) :
    Held fate caller endpoint task.call task.stage (state.world.connections endpoint) := by
  have situation := sound.recorded endpoint
  rw [sound.inHand caller task endpoint running owned] at situation
  cases situation with
  | inCall same held =>
    obtain rfl := Option.some.inj (running.symm.trans same)
    exact held

/-- A connection that the system has not handed out yet is nowhere. -/
theorem Sound.unseen_of_fresh {place : EndpointId → Place} {state : State}
    (sound : Sound fate place state)
    (fresh : (state.world.connections endpoint).accepted = false) :
    place endpoint = .unseen ∧ state.world.connections endpoint = {} := by
  have situation := sound.recorded endpoint
  generalize place endpoint = situated at situation
  generalize state.world.connections endpoint = connection at fresh situation
  cases situation with
  | unseen => exact ⟨rfl, rfl⟩
  | inCall _ held =>
    rw [held.accepted] at fresh
    contradiction
  | waiting => contradiction
  | finished ended => cases ended <;> contradiction

theorem Look.handle? (seen : Look limits service call stage next) : next.handle? = none := by
  cases seen <;> rfl

theorem Look.endpoint? (seen : Look limits service call stage next)
    (owned : next.endpoint? = some endpoint) : stage.endpoint? = some endpoint := by
  cases seen <;> exact owned

theorem Look.held (seen : Look limits service call stage next)
    (held : Held fate caller endpoint call stage connection) :
    Held fate caller endpoint call next connection := by
  cases seen with
  | reads => cases held; exact .reading
  | unreadable => cases held; exact .unreadable
  | closedWhileReading => cases held; exact .refused (Nat.zero_le 1)
  | rejects => cases held; exact .rejecting
  | _ => cases held

end ScriptHost.HttpService
