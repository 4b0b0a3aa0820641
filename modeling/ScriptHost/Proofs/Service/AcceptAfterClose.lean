import ScriptHost.Proofs.Http.LengthFraming
import ScriptHost.Proofs.Service.AcceptSteps

/-! What becomes of a call that waits for a peer when its listener is closed. Only an attempt without
a connection looks the handle up, so the call may take one connection more. -/
namespace ScriptHost.PendingAccept

open Network (EndpointId ListenerId)

variable {call : PendingAccept} {origin world after : World} {events : List Event}
  {stage next : Stage} {event : Event}

/-! What is known of a run. -/

/-- An attempt that found no connection comes to the same once the handle is gone, whatever the
system answered. -/
private theorem tryAccept_of_unanswered {network : Network} {listener : ListenerId}
    {stillOpen : Bool} {error : HostError}
    (unanswered : ∀ endpoint after,
      tryAccept network listener stillOpen error ≠ .done (.ok endpoint) after)
    (closed : HostError) :
    tryAccept network listener false closed = .done (.error closed) network := by
  unfold tryAccept at unanswered ⊢
  split
  · rfl
  · simp_all
  · rfl

/-- Whether the call may still take a connection, or learn that there is none. -/
def Stage.waiting : Stage → Bool
  | .polling | .unanswered _ | .sleeping => true
  | _ => false

/-- Whether the call has got a connection. -/
def Stage.hasConnection : Stage → Bool
  | .taken _ | .reading _ _ | .returned (.ok _) => true
  | _ => false

/-- No connection was taken. -/
def Untaken (events : List Event) : Prop := ∀ endpoint stillOpen, .took endpoint stillOpen ∉ events

private theorem Untaken.front {events more : List Event} (untaken : Untaken (events ++ more)) :
    Untaken events := fun endpoint stillOpen member =>
  untaken endpoint stillOpen (List.mem_append_left _ member)

/-- What links the events so far with where the call is. -/
structure Tracked (call : PendingAccept) (origin : World) (events : List Event) (world : World)
    (stage : Stage) : Prop where
  kind : (call.server.listeners world).kind = (call.server.listeners origin).kind
  isOpen : call.isOpen world = true ↔ .closed ∉ events
  untaken : stage.waiting = true → Untaken events
  unanswered : ∀ seen, stage = .unanswered seen → ∀ error,
    tryAccept seen call.listener false error = .done (.error error) seen
  closed : ∀ outcome, stage = .returned outcome → .closed ∈ events → Untaken events →
    outcome = .error (call.closedError origin)
  taken : stage.hasConnection = true → ¬Untaken events

namespace Tracked

theorem start (found : (call.server.listeners world).get call.handle = .ok call.listener) :
    Tracked call world [] (call.holdOn world) .polling where
  kind := by cases call.server <;> rfl
  isOpen := by
    have present := Table.get_eq_ok_iff.mp found
    have same : call.server.listeners (call.holdOn world) = call.server.listeners world := by
      cases call.server <;> rfl
    simp [PendingAccept.isOpen, same, Table.contains, present]
  untaken := by simp [Untaken]
  unanswered := by simp
  closed := by simp
  taken := by simp [Stage.hasConnection]

theorem closedError_eq (tracked : Tracked call origin events world stage) :
    call.closedError world = call.closedError origin := by
  rw [closedError, closedError, Table.closed, Table.closed, tracked.kind]

theorem isOpen_eq_false (tracked : Tracked call origin events world stage)
    (gone : .closed ∈ events) : call.isOpen world = false := by
  rw [Bool.eq_false_iff, ne_eq, tracked.isOpen, Classical.not_not]
  exact gone

/-- What a look at the handle says once the handle is gone. -/
theorem attempt_of_closed (tracked : Tracked call origin events world (.unanswered seen))
    (gone : .closed ∈ events) :
    call.attempt world seen = .done (.error (call.closedError origin)) seen := by
  rw [attempt, tracked.isOpen_eq_false gone, tracked.unanswered seen rfl, tracked.closedError_eq]

theorem advance (tracked : Tracked call origin events world stage)
    (step : Advance call world stage event after next) :
    Tracked call origin (events ++ [event]) after next := by
  constructor
  case kind => rw [step.listeners_eq, tracked.kind]
  case isOpen =>
    rw [step.isOpen_eq, tracked.isOpen]
    cases step <;> simp
  case untaken =>
    intro waiting
    cases step with
    | interrupted | misses | stays | wakes =>
      have before := tracked.untaken rfl
      simpa [Untaken] using before
    | takes | fails | unusable | keeps | begins | waits | refuses | accepts => cases waiting
  case unanswered =>
    intro seen same
    cases step with
    | misses unanswered =>
      cases same
      exact tryAccept_of_unanswered unanswered
    | interrupted | takes | stays | fails | wakes | unusable | keeps | begins | waits | refuses
    | accepts => cases same
  case closed =>
    intro outcome same gone untaken
    cases step with
    | fails checked =>
      cases same
      have gone : .closed ∈ events := by simpa using gone
      rw [tracked.attempt_of_closed gone] at checked
      cases checked
      rfl
    | unusable | keeps | refuses | accepts => exact absurd untaken.front (tracked.taken rfl)
    | interrupted | takes | misses | stays | wakes | begins | waits => cases same
  case taken =>
    intro has untaken
    cases step with
    | takes => exact untaken _ _ (List.mem_append_right _ (List.mem_singleton_self _))
    | unusable | keeps | begins | waits | refuses | accepts =>
      exact tracked.taken rfl untaken.front
    | interrupted | misses | stays | fails | wakes => cases has

theorem others (tracked : Tracked call origin events world stage)
    (unfinished : ∀ outcome, stage ≠ .returned outcome) (step : Others call world event after) :
    Tracked call origin (events ++ [event]) after stage := by
  constructor
  case kind => rw [step.kind_eq, tracked.kind]
  case isOpen =>
    cases step with
    | arrives =>
      have same : ∀ network, call.isOpen { world with network } = call.isOpen world := by
        intro network
        rw [PendingAccept.isOpen, PendingAccept.isOpen]
        cases call.server <;> rfl
      rw [same, tracked.isOpen]
      simp
    | closes _ removed => simp [removed]
    | other alone =>
      rw [PendingAccept.isOpen, Table.contains, alone]
      have before := tracked.isOpen
      rw [PendingAccept.isOpen, Table.contains] at before
      simp [before]
  case untaken =>
    intro waiting endpoint stillOpen member
    refine tracked.untaken waiting endpoint stillOpen ?_
    cases step <;> simpa using member
  case unanswered => exact tracked.unanswered
  case closed =>
    intro outcome same
    exact absurd same (unfinished outcome)
  case taken =>
    intro has untaken
    exact tracked.taken has untaken.front

end Tracked

theorem Run.tracked (run : Run call origin events world stage) :
    Tracked call origin events world stage := by
  induction run with
  | start found => exact .start found
  | advance _ step tracked => exact tracked.advance step
  | others _ unfinished step tracked => exact tracked.others unfinished step

/-! What a close leaves the call to do. -/

private theorem snoc_eq_append_cons {Item : Type} {items before rest : List Item}
    {last item : Item} (same : items ++ [last] = before ++ item :: rest) :
    (rest = [] ∧ items = before ∧ last = item) ∨
      ∃ most, rest = most ++ [last] ∧ items = before ++ item :: most := by
  rcases List.eq_nil_or_concat rest with rfl | ⟨most, final, rfl⟩
  · obtain ⟨rfl, final⟩ := List.append_inj' same rfl
    exact .inl ⟨rfl, rfl, List.singleton_inj.mp final⟩
  · rw [List.concat_eq_append, ← List.cons_append, ← List.append_assoc] at same
    obtain ⟨rfl, final⟩ := List.append_inj' same rfl
    exact .inr ⟨most, by rw [List.concat_eq_append, List.singleton_inj.mp final], rfl⟩

/-- A connection is taken while the handle is in the table, unless the close comes first. -/
theorem Run.stillOpen_iff (run : Run call origin events world stage) {before rest : List Event}
    {endpoint : EndpointId} {stillOpen : Bool}
    (split : events = before ++ .took endpoint stillOpen :: rest) :
    stillOpen = true ↔ .closed ∉ before := by
  induction run generalizing rest with
  | start => simp at split
  | advance run step ih =>
    rcases snoc_eq_append_cons split with ⟨_, rfl, rfl⟩ | ⟨most, _, earlier⟩
    · cases step
      exact run.tracked.isOpen
    · exact ih earlier
  | others run _ step ih =>
    rcases snoc_eq_append_cons split with ⟨_, _, rfl⟩ | ⟨most, _, earlier⟩
    · cases step
    · exact ih earlier

/-- What the steps of the call use up from a budget stays within it after the close, if no step takes
more than it leaves less. -/
private theorem Run.countP_le (counts : Event → Bool) (left : Stage → Nat) (budget : Nat)
    (bounded : ∀ stage, left stage ≤ budget)
    (own : ∀ {events world stage event after next}, Tracked call origin events world stage →
      .closed ∈ events → Advance call world stage event after next →
      [event].countP counts + left next ≤ left stage)
    (foreign : ∀ {world event after}, Others call world event after → counts event = false)
    (run : Run call origin events world stage) {before rest : List Event}
    (split : events = before ++ .closed :: rest) : rest.countP counts + left stage ≤ budget := by
  induction run generalizing rest with
  | start => simp at split
  | advance run step ih =>
    rcases snoc_eq_append_cons split with ⟨_, _, rfl⟩ | ⟨most, rfl, earlier⟩
    · cases step
    · have used := ih earlier
      have more := own run.tracked (by simp [earlier]) step
      rw [List.countP_append]
      omega
  | others run _ step ih =>
    rcases snoc_eq_append_cons split with ⟨rfl, _, _⟩ | ⟨most, rfl, earlier⟩
    · simpa using bounded _
    · have used := ih earlier
      simpa [foreign step] using used

/-- An attempt that the system answers. -/
def Event.isAttempt : Event → Bool
  | .took _ _ | .missed => true
  | _ => false

/-- A step that brings the call nearer to its end. -/
def Event.isProgress : Event → Bool
  | .took _ _ | .missed | .checked | .woke => true
  | _ => false

/-- How many attempts a call has left once its handle is gone. -/
def Stage.attemptsLeft : Stage → Nat
  | .polling | .sleeping => 1
  | _ => 0

/-- How many steps a call has left, at most, once its handle is gone. -/
def Stage.stepsLeft : Stage → Nat
  | .sleeping => 3
  | .polling => 2
  | .unanswered _ => 1
  | _ => 0

/-- The system is asked at most once more, not counting where it is interrupted. -/
theorem Run.attempts_le (run : Run call origin events world stage) {before rest : List Event}
    (split : events = before ++ .closed :: rest) : rest.countP Event.isAttempt ≤ 1 := by
  refine Nat.le_trans (Nat.le_add_right _ _)
    (Run.countP_le Event.isAttempt Stage.attemptsLeft 1 ?_ ?_ ?_ run split)
  · intro stage
    cases stage <;> simp [Stage.attemptsLeft]
  · intro _ _ _ _ _ _ tracked gone step
    cases step with
    | stays checked =>
      rw [tracked.attempt_of_closed gone] at checked
      cases checked
    | _ => simp [Event.isAttempt, Stage.attemptsLeft]
  · intro _ _ _ step
    cases step <;> rfl

/-- The call has its connection or its end after three steps more. -/
theorem Run.steps_le (run : Run call origin events world stage) {before rest : List Event}
    (split : events = before ++ .closed :: rest) : rest.countP Event.isProgress ≤ 3 := by
  refine Nat.le_trans (Nat.le_add_right _ _)
    (Run.countP_le Event.isProgress Stage.stepsLeft 3 ?_ ?_ ?_ run split)
  · intro stage
    cases stage <;> simp [Stage.stepsLeft]
  · intro _ _ _ _ _ _ tracked gone step
    cases step with
    | stays checked =>
      rw [tracked.attempt_of_closed gone] at checked
      cases checked
    | _ => simp [Event.isProgress, Stage.stepsLeft]
  · intro _ _ _ step
    cases step <;> rfl

/-- With no connection for an attempt that it has left the call ends for want of its handle. -/
theorem Run.ends (run : Run call origin events world stage) (gone : .closed ∈ events)
    (waiting : stage.waiting = true)
    (missed : stage.attemptsLeft = 1 →
      ∀ endpoint network, call.attempt world world.network ≠ .done (.ok endpoint) network) :
    ∃ more after, Untaken (events ++ more) ∧
      Run call origin (events ++ more) after (.returned (.error (call.closedError origin))) := by
  have untaken := run.tracked.untaken waiting
  cases stage with
  | unanswered seen =>
    have checked := run.advance (.fails (run.tracked.attempt_of_closed gone))
    exact ⟨[.checked], _, by simpa [Untaken] using untaken, checked⟩
  | polling =>
    have polled := run.advance (.misses (missed rfl))
    have checked := polled.advance (.fails (polled.tracked.attempt_of_closed (by simp [gone])))
    rw [List.append_assoc] at checked
    exact ⟨[.missed, .checked], _, by simpa [Untaken] using untaken, checked⟩
  | sleeping =>
    have polled := (run.advance .wakes).advance (.misses (missed rfl))
    have checked := polled.advance (.fails (polled.tracked.attempt_of_closed (by simp [gone])))
    rw [List.append_assoc, List.append_assoc] at checked
    exact ⟨[.woke, .missed, .checked], _, by simpa [Untaken] using untaken, checked⟩
  | taken | reading | returned => cases waiting

/-- A connection that waits for the next attempt is taken, with the handle gone or not. -/
theorem Run.takes (run : Run call origin events world stage) (gone : .closed ∈ events)
    (left : stage.attemptsLeft = 1) {endpoint : EndpointId} {network : Network}
    (answered : call.attempt world world.network = .done (.ok endpoint) network) :
    ∃ more, Run call origin (events ++ more ++ [.took endpoint false]) { world with network }
      (.taken endpoint) := by
  have polled : ∃ more, Run call origin (events ++ more) world .polling := by
    cases stage with
    | polling => exact ⟨[], by rwa [List.append_nil]⟩
    | sleeping => exact ⟨[.woke], run.advance .wakes⟩
    | unanswered | taken | reading | returned => cases left
  obtain ⟨more, polling⟩ := polled
  refine ⟨more, ?_⟩
  rw [← run.tracked.isOpen_eq_false gone]
  exact polling.advance (.takes answered)

/-- A request that has arrived whole is served, though the listener is gone. -/
theorem Run.serves {endpoint : EndpointId} {deadline : Nat}
    (run : Run call origin events world (.reading endpoint deadline))
    (gone : world.http.listeners.contains call.handle = false) {bytes : Bytes} (sent : bytes ≠ [])
    (arrived : (world.network.endpoint endpoint).arrivals = [.data bytes]) {request : Http.Request}
    {rest : Http.Source}
    (read : Http.readRequest call.limits ⟨bytes, .failed .listenerClosed⟩ = .ok (request, rest)) :
    ∃ after, Run call origin (events ++ [.served]) after
      (.returned (.ok (world.http.addRequest endpoint request).1.handle)) := by
  have source : Http.patientSource deadline (HttpService.timedReads [.data bytes] 0 false) =
      ⟨bytes, .failed .listenerClosed⟩ := by
    obtain ⟨byte, more, rfl⟩ := List.exists_cons_of_ne_nil sent
    simp [HttpService.timedReads, Http.patientSource]
  have accepted : world.http.readRequest world.network call.limits 0 call.handle endpoint deadline =
      .done (.ok (world.http.addRequest endpoint request).1)
        ((world.http.addRequest endpoint request).2, world.network) := by
    rw [HttpService.readRequest]
    simp only [arrived, gone, source, read]
  exact ⟨_, run.advance (.accepts 0 accepted)⟩

/-- What is true of a call while others close its listener and peers arrive. -/
structure Settled (call : PendingAccept) (origin : World) (events : List Event) (world : World)
    (stage : Stage) : Prop where
  /-- A connection is taken from a listener that is still in the table, unless it was closed before. -/
  stillOpen_iff : ∀ before endpoint stillOpen rest,
    events = before ++ .took endpoint stillOpen :: rest → (stillOpen = true ↔ .closed ∉ before)
  given : ∀ handle, stage = .returned (.ok handle) → ¬Untaken events
  /-- Behind the close the system is asked once more at most. -/
  attempts : ∀ before rest, events = before ++ .closed :: rest → rest.countP Event.isAttempt ≤ 1
  steps : ∀ before rest, events = before ++ .closed :: rest → rest.countP Event.isProgress ≤ 3
  /-- If that gives no connection, the call reports that its handle is gone. -/
  reported : ∀ outcome, stage = .returned outcome → .closed ∈ events → Untaken events →
    outcome = .error (call.closedError origin)
  ends : .closed ∈ events → stage.waiting = true →
    (stage.attemptsLeft = 1 → ∀ endpoint network,
      call.attempt world world.network ≠ .done (.ok endpoint) network) →
    ∃ more after, Untaken (events ++ more) ∧
      Run call origin (events ++ more) after (.returned (.error (call.closedError origin)))
  /-- If a connection waits there, it is taken all the same. -/
  takes : .closed ∈ events → stage.attemptsLeft = 1 → ∀ endpoint network,
    call.attempt world world.network = .done (.ok endpoint) network →
    ∃ more, Run call origin (events ++ more ++ [.took endpoint false]) { world with network }
      (.taken endpoint)

/-- Whatever comes between the steps of a call that waits for a peer, its handle is in the table when a
connection is taken unless the listener was closed before. A call whose listener is closed makes one
attempt more at most. Without a connection for that it ends for want of its handle; otherwise it takes
the connection, since only the branches without one look the handle up. -/
theorem settled_of_run (run : Run call origin events world stage) :
    Settled call origin events world stage where
  stillOpen_iff _ _ _ _ split := run.stillOpen_iff split
  given handle same := run.tracked.taken (by rw [same]; rfl)
  attempts _ _ split := run.attempts_le split
  steps _ _ split := run.steps_le split
  reported := run.tracked.closed
  ends gone waiting missed := run.ends gone waiting missed
  takes gone left _ _ answered := run.takes gone left answered

/-- A listener that is closed while the call sleeps, and no peer. -/
theorem settled_of_run_idle :
    let sockets := (SocketService.addListener {} 0).2
    let origin : World := { sockets, network := { listeners := #[{ port := 32768 }] } }
    let call : PendingAccept := ⟨.sockets, (SocketService.addListener {} 0).1, 0, {}⟩
    let events : List Event := [.missed, .checked, .closed, .woke, .missed, .checked]
    ∃ world, Run call origin events world (.returned (.error (.closed .listener 1))) ∧
      Settled call origin events world (.returned (.error (.closed .listener 1))) := by
  intro sockets origin call events
  have polling : Run call origin [] (call.holdOn origin) .polling := .start rfl
  have sleeping := (polling.advance (.misses (by nofun))).advance (.stays rfl)
  have closed := sleeping.others (by nofun) (.closes rfl rfl)
  have polled := (closed.advance .wakes).advance (.misses (by nofun))
  have returned := polled.advance (.fails rfl)
  exact ⟨_, returned, settled_of_run returned⟩

/-- A peer that arrives behind the close is served under a handle of its own, by either service. -/
theorem served_after_close :
    let ids : Allocator := {}
    let head : Http.Head := ⟨0, "GET", "/", .http10, [⟨"Host", " x"⟩]⟩
    let peer : Network.Endpoint := { port := 32768, arrivals := [.data (Http.crlf head.lines)] }
    let origin : World :=
      { sockets :=
          { ids := ids.advance, listeners := Table.store { kind := .listener } ids.next 0 }
        http :=
          { ids := ids.advance, listeners := Table.store { kind := .httpListener } ids.next 0 }
        network := { listeners := #[{ port := 32768 }], endpoints := #[peer] } }
    let events : List Event := [.missed, .checked, .closed, .arrived 0, .woke, .took 0 false]
    (∃ world handle, Run ⟨.sockets, ids.next, 0, {}⟩ origin (events ++ [.served]) world
        (.returned (.ok handle))) ∧
      ∃ world handle, Run ⟨.http, ids.next, 0, {}⟩ origin (events ++ [.served, .served]) world
        (.returned (.ok handle)) := by
  intro ids head peer origin events
  constructor
  · have polling : Run ⟨.sockets, ids.next, 0, {}⟩ origin [] _ .polling := .start rfl
    have sleeping := (polling.advance (.misses (by nofun))).advance (.stays rfl)
    have closed := sleeping.others (by nofun) (.closes rfl rfl)
    have arrived := closed.others (by nofun) (.arrives 0 (by decide))
    have taken := (arrived.advance .wakes).advance (.takes rfl)
    exact ⟨_, _, taken.advance (.keeps rfl)⟩
  · have polling : Run ⟨.http, ids.next, 0, {}⟩ origin [] _ .polling := .start rfl
    have sleeping := (polling.advance (.misses (by nofun))).advance (.stays rfl)
    have closed := sleeping.others (by nofun) (.closes rfl rfl)
    have arrived := closed.others (by nofun) (.arrives 0 (by decide))
    have taken := (arrived.advance .wakes).advance (.takes rfl)
    have reading := taken.advance (.begins rfl 1)
    have accepted : head.Accepted {} (Http.crlf head.lines) :=
      ⟨by decide, by decide, by decide, by decide, Http.lines_crlf (by decide), by decide⟩
    have body : Http.readBody (Http.Headers.ofFields head.fields) {}
        ⟨[], .failed .listenerClosed⟩ = .ok ([], ⟨[], .failed .listenerClosed⟩) :=
      (Http.readBody_lengthFramed_iff (by decide)).mpr ⟨.none (by decide), Nat.zero_le _, rfl⟩
    have read : Http.readRequest {} ⟨Http.crlf head.lines, .failed .listenerClosed⟩ =
        .ok (head.request [], ⟨[], .failed .listenerClosed⟩) := by
      have split := Http.readRequest_of_accepted accepted ⟨[], .failed .listenerClosed⟩
      rw [Http.Source.behind, List.append_nil] at split
      rw [split, body]
      rfl
    obtain ⟨world, served⟩ := reading.serves rfl (by decide) rfl read
    exact ⟨world, _, served⟩

end ScriptHost.PendingAccept
