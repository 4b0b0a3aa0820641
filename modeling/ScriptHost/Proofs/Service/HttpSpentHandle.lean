import ScriptHost.Proofs.Service.HttpInvariant

/-! Once a handle is issued and gone from the tables it never comes back: the service turns it away,
and so does every call that looks for it from then on. -/
namespace ScriptHost.HttpService

open Network (EndpointId ListenerId)

/-- The call is one that takes a request: a close, or a respond that passes its checks. -/
def Call.Takes (handle : Handle) : Call → Prop
  | .close name => name = handle
  | .respond name status headers _ =>
    name = handle ∧ (100 ≤ status ∧ status ≤ 999) ∧ headers.validate = .ok ()
  | _ => False

/-- The call takes a request by the handle or accepts at it. -/
def Call.Uses (handle : Handle) : Call → Prop
  | .accept name => name = handle
  | call => call.Takes handle

/-- A call that uses the handle has not found anything under it. -/
def Task.NotServed (handle : Handle) (task : Task) : Prop :=
  task.call.Uses handle → task.stage = .called ∨ task.stage = .missed ∨
    ∃ kind, task.stage = .returned (.error (.notFound kind handle.id))

/-- A handle that the service turns away. -/
structure TurnedAway (service : HttpService) (handle : Handle) : Prop where
  accept : service.listeners.get handle = .error (service.listeners.notFound handle)
  respond : ∀ network status headers body, 100 ≤ status ∧ status ≤ 999 →
    headers.validate = .ok () → service.respond network handle status headers body =
      (.error (service.requests.notFound handle), service, network)
  close : ∀ network, service.close network handle =
    (.error (service.requests.notFound handle), service, network)

/-- A handle that was issued and names nothing any more, and that no call is about to use as a
name. -/
structure Spent (state : State) (handle : Handle) : Prop where
  issued : handle.id ≤ state.world.service.ids.issued
  noListener : state.world.service.listeners.get? handle = none
  noRequest : state.world.service.requests.get? handle = none
  unnamed : ∀ caller task, state.calls caller = some task → task.stage.handle? ≠ some handle

theorem statusOf_eq_ok_iff {status : Int} {code : Nat} :
    Http.statusOf status = .ok code ↔ (100 ≤ status ∧ status ≤ 999) ∧ code = status.toNat := by
  rw [Http.statusOf]
  split
  · rename_i inside
    rw [Except.ok.injEq]
    constructor
    · intro same
      exact ⟨inside, same.symm⟩
    · intro same
      exact same.2.symm
  · rename_i outside
    constructor
    · intro same
      cases same
    · intro same
      exact absurd same.1 outside

namespace Spent

variable {state : State} {handle : Handle} {world : World} {caller : CallId} {task : Task}

theorem turnedAway (spent : Spent state handle) : TurnedAway state.world.service handle where
  accept := Table.get_of_get?_eq_none spent.noListener
  respond := by
    intro network status headers body inside valid
    have checked := statusOf_eq_ok_iff.mpr ⟨inside, rfl⟩
    have missing := Table.take?_eq_none_iff.mpr spent.noRequest
    simp only [HttpService.respond, checked, valid, missing]
  close := by
    intro network
    have noListener := Table.take?_eq_none_iff.mpr spent.noListener
    have noRequest := Table.take?_eq_none_iff.mpr spent.noRequest
    simp only [HttpService.close, noListener, noRequest]

theorem proceed (spent : Spent state handle)
    (issued : handle.id ≤ world.service.ids.issued)
    (noListener : world.service.listeners.get? handle = none)
    (noRequest : world.service.requests.get? handle = none)
    (unnamed : task.stage.handle? ≠ some handle) :
    Spent (state.proceed caller world task) handle := by
  refine ⟨issued, noListener, noRequest, ?_⟩
  intro other task' running
  by_cases same : other = caller
  · subst same
    rw [State.calls_proceed_self] at running
    obtain rfl := Option.some.inj running
    exact unnamed
  · rw [State.calls_proceed_of_ne same] at running
    exact spent.unnamed other task' running

/-- A step that leaves the service alone. -/
theorem keep (spent : Spent state handle) (same : world.service = state.world.service)
    (unnamed : task.stage.handle? = none) : Spent (state.proceed caller world task) handle := by
  apply spent.proceed
  · rw [same]
    exact spent.issued
  · rw [same]
    exact spent.noListener
  · rw [same]
    exact spent.noRequest
  · rw [unnamed]
    nofun

/-- A step that issues the next handle: a spent one was issued before. -/
theorem issue (spent : Spent state handle) (room : state.world.service.ids.issued < UInt64.size - 1)
    (named : task.stage.handle? = some state.world.service.ids.next) :
    Spent (state.proceed caller
      { state.world with service.ids := state.world.service.ids.advance } task) handle := by
  refine spent.proceed (Nat.le_succ_of_le spent.issued) spent.noListener spent.noRequest ?_
  rw [named]
  intro same
  have above := Allocator.id_next room
  rw [Option.some.inj same] at above
  have issued := spent.issued
  omega

theorem moves (spent : Spent state handle) (moves : state.Moves limits caller state') :
    Spent state' handle := by
  obtain ⟨running, advance⟩ := moves
  rename_i task next world
  obtain ⟨call, stage⟩ := task
  cases advance with
  | look seen => exact spent.keep rfl seen.handle?
  | nameListener room | nameRequest room => exact spent.issue room rfl
  | keepListener =>
    have apart : handle ≠ _ := fun same => spent.unnamed _ _ running (congrArg some same.symm)
    refine spent.proceed spent.issued ?_ spent.noRequest nofun
    exact (Table.get?_store_of_ne apart _).trans spent.noListener
  | keepRequest =>
    have apart : handle ≠ _ := fun same => spent.unnamed _ _ running (congrArg some same.symm)
    refine spent.proceed spent.issued spent.noListener ?_ nofun
    exact (Table.get?_store_of_ne apart _).trans spent.noRequest
  | connect | lose | parse | reject | write | writeFails | shutDown => exact spent.keep rfl rfl
  | take _ _ taken | dropRequest taken =>
    obtain ⟨_, rfl⟩ := Table.take?_eq_some_iff.mp taken
    refine spent.proceed spent.issued spent.noListener ?_ nofun
    exact Table.get?_drop_eq_none spent.noRequest
  | closeListener taken =>
    obtain ⟨_, rfl⟩ := Table.take?_eq_some_iff.mp taken
    refine spent.proceed spent.issued ?_ spent.noRequest nofun
    exact Table.get?_drop_eq_none spent.noListener

/-- Whoever looks for a spent handle does not find it. -/
theorem notServed (spent : Spent state handle) (before : task.NotServed handle)
    (advance : Advance limits caller state.world task.call task.stage world next) :
    Task.NotServed handle ⟨task.call, next⟩ := by
  intro uses
  have noListener := Table.take?_eq_none_iff.mpr spent.noListener
  have noRequest := Table.take?_eq_none_iff.mpr spent.noRequest
  obtain ⟨call, stage⟩ := task
  rcases before uses with called | missed | ⟨kind, returned⟩
  · cases called
    cases advance with
    | look seen =>
      cases seen with
      | noListener missing =>
        cases uses
        have same := (Table.get_of_get?_eq_none spent.noListener).symm.trans missing
        obtain rfl := Except.error.inj same
        exact .inr (.inr ⟨_, rfl⟩)
      | polls found =>
        cases uses
        cases (Table.get_of_get?_eq_none spent.noListener).symm.trans found
      | badStatus refused => cases (statusOf_eq_ok_iff.mpr ⟨uses.2.1, rfl⟩).symm.trans refused
      | badHeaders _ refused => cases uses.2.2.symm.trans refused
      | noRequest =>
        obtain ⟨rfl, _⟩ := uses
        exact .inr (.inr ⟨_, rfl⟩)
      | isNoListener => exact .inr (.inl rfl)
      | _ => cases uses
    | take _ _ taken =>
      obtain ⟨rfl, _⟩ := uses
      cases noRequest.symm.trans taken
    | closeListener taken =>
      cases uses
      cases noListener.symm.trans taken
  · cases missed
    cases advance with
    | look seen =>
      cases seen
      cases uses
      exact .inr (.inr ⟨_, rfl⟩)
    | dropRequest taken =>
      cases uses
      cases noRequest.symm.trans taken
  · exact absurd returned (advance.unfinished _)

theorem step (spent : Spent state handle) (step : State.Step limits state state') :
    Spent state' handle ∧ ∀ caller,
      (∀ task, state.calls caller = some task → task.NotServed handle) →
        ∀ task, state'.calls caller = some task → task.NotServed handle := by
  cases step with
  | @start starter idle call =>
    refine ⟨spent.keep rfl rfl, ?_⟩
    intro caller before task made
    by_cases same : caller = starter
    · subst same
      obtain rfl := Option.some.inj ((State.calls_proceed_self ..).symm.trans made)
      exact fun _ => .inl rfl
    · rw [State.calls_proceed_of_ne same] at made
      exact before task made
  | @move _ mover moves =>
    refine ⟨spent.moves moves, ?_⟩
    obtain ⟨running, advance⟩ := moves
    intro caller before task made
    by_cases same : caller = mover
    · subst same
      obtain rfl := Option.some.inj ((State.calls_proceed_self ..).symm.trans made)
      exact spent.notServed (before _ running) advance
    · rw [State.calls_proceed_of_ne same] at made
      exact before task made

theorem run (spent : Spent state handle) (run : State.Run limits state state') :
    Spent state' handle ∧ ∀ caller,
      (∀ task, state.calls caller = some task → task.NotServed handle) →
        ∀ task, state'.calls caller = some task → task.NotServed handle := by
  induction run with
  | refl => exact ⟨spent, fun _ before => before⟩
  | tail _ next ih =>
    obtain ⟨still, held⟩ := ih
    obtain ⟨after, kept⟩ := still.step next
    exact ⟨after, fun caller before => kept caller (held caller before)⟩

end Spent

/-- The handle of a request that was taken is spent. -/
theorem Sound.spent {fate : Handle → Fate} {place : EndpointId → Place} {state : State}
    (sound : Sound fate place state) (taken : fate handle = .answered endpoint) :
    Spent state handle := by
  refine ⟨?_, ?_, ?_, ?_⟩
  · by_contra later
    cases taken.symm.trans (sound.fresh handle (Nat.lt_of_not_le later))
  · rw [Option.eq_none_iff_forall_ne_some]
    intro listener present
    cases taken.symm.trans (sound.listening handle listener present)
  · rw [Option.eq_none_iff_forall_ne_some]
    intro context present
    cases taken.symm.trans (sound.waiting handle context present).1
  · intro caller task running named
    cases taken.symm.trans (sound.named caller task handle running named)

end ScriptHost.HttpService
