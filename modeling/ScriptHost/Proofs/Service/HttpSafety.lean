import ScriptHost.Proofs.Service.HttpInvariant

/-! The invariant holds wherever a run of a server can get to: one lemma for each kind of step, and
one induction over the run. -/
namespace ScriptHost.HttpService

open Network (EndpointId ListenerId)

variable {fate : Handle → Fate} {place : EndpointId → Place} {state : State} {caller : CallId}
  {task : Task}

/-- Another fate than the one that changes stays as it is. -/
private theorem kept {handle other : Handle} {old new value : Fate} (held : fate handle = old)
    (same : fate other = value) (different : value ≠ old) :
    Function.update fate handle new other = value := by
  have apart : other ≠ handle := by
    intro same
    subst same
    exact different (same.symm.trans held)
  rw [Function.update_of_ne apart, same]

theorem Sound.start (sound : Sound fate place state) (idle : state.calls caller = none)
    (call : Call) : Sound fate place (state.proceed caller state.world ⟨call, .called⟩) := by
  refine sound.keep (by simp [idle]) nofun nofun ?_
  intro endpoint mine
  have situation := sound.recorded endpoint
  rw [mine] at situation
  cases situation with
  | inCall running => simp [idle] at running

theorem Sound.look (sound : Sound fate place state) (running : state.calls caller = some task)
    (unfinished : ∀ call outcome, state.calls caller ≠ some ⟨call, .returned outcome⟩)
    (seen : Look limits state.world.service task.call task.stage next) :
    Sound fate place (state.proceed caller state.world ⟨task.call, next⟩) := by
  refine sound.keep unfinished ?_ ?_ ?_
  · intro handle owned
    rw [seen.handle?] at owned
    contradiction
  · intro endpoint owned
    exact sound.inHand caller task endpoint running (seen.endpoint? owned)
  · intro endpoint mine
    exact seen.held (sound.held running (sound.endpoint?_of_inCall running mine))

/-- A call records something on the connection that it has in hand. -/
theorem Sound.record {change : Connection → Connection} (sound : Sound fate place state)
    (situated : Place) (running : state.calls caller = some task)
    (unfinished : ∀ call outcome, state.calls caller ≠ some ⟨call, .returned outcome⟩)
    (owned : task.stage.endpoint? = some endpoint) (unnamed : next.handle? = none)
    (inHand : ∀ other, next.endpoint? = some other → other = endpoint ∧ situated = .inCall caller)
    (situation : ∀ connection, Held fate caller endpoint task.call task.stage connection →
      Situation fate (state.proceed caller (state.world.note endpoint change) ⟨task.call, next⟩)
        endpoint situated (change connection)) :
    Sound fate (Function.update place endpoint situated)
      (state.proceed caller (state.world.note endpoint change) ⟨task.call, next⟩) := by
  refine sound.change unfinished (.inl (sound.inHand caller task endpoint running owned)) ?_ ?_
    inHand (situation _ (sound.held running owned))
  · intro other mine
    exact Option.some.inj ((sound.endpoint?_of_inCall running mine).symm.trans owned)
  · intro handle named
    rw [unnamed] at named
    contradiction

/-- A call gets a connection that was not handed out before. -/
theorem Sound.connect {situated : Place} (sound : Sound fate place state)
    (running : state.calls caller = some task)
    (unfinished : ∀ call outcome, state.calls caller ≠ some ⟨call, .returned outcome⟩)
    (free : task.stage.endpoint? = none)
    (fresh : (state.world.connections endpoint).accepted = false) (unnamed : next.handle? = none)
    (inHand : ∀ other, next.endpoint? = some other → other = endpoint ∧ situated = .inCall caller)
    (situation : Situation fate
      (state.proceed caller
        (state.world.note endpoint fun connection => { connection with accepted := true })
        ⟨task.call, next⟩) endpoint situated { accepted := true }) :
    Sound fate (Function.update place endpoint situated)
      (state.proceed caller
        (state.world.note endpoint fun connection => { connection with accepted := true })
        ⟨task.call, next⟩) := by
  obtain ⟨unseen, blank⟩ := sound.unseen_of_fresh fresh
  refine sound.change unfinished (.inr unseen) ?_ ?_ inHand ?_
  · intro other mine
    have owned := sound.endpoint?_of_inCall running mine
    rw [free] at owned
    contradiction
  · intro handle named
    rw [unnamed] at named
    contradiction
  · rw [blank]
    exact situation

/-- The next handle is issued to a call. -/
theorem Sound.issue (sound : Sound fate place state) (running : state.calls caller = some task)
    (unfinished : ∀ call outcome, state.calls caller ≠ some ⟨call, .returned outcome⟩)
    (room : state.world.service.ids.issued < UInt64.size - 1)
    (named : next.handle? = some state.world.service.ids.next)
    (sameHand : next.endpoint? = task.stage.endpoint?)
    (held : ∀ fate endpoint connection, Held fate caller endpoint task.call task.stage connection →
      Held fate caller endpoint task.call next connection) :
    Sound (Function.update fate state.world.service.ids.next (.named caller)) place
      (state.proceed caller
        { state.world with service.ids := state.world.service.ids.advance } ⟨task.call, next⟩) := by
  have above := Allocator.id_next room
  have fresh : fate state.world.service.ids.next = .fresh := sound.fresh _ (by omega)
  refine sound.proceed unfinished ?_ (fun _ _ _ same => same) ?_ ?_ ?_ ?_ ?_ ?_ ?_ ?_
  · intro other handle _ owned
    exact kept fresh owned nofun
  · intro endpoint handle taken
    exact kept fresh taken nofun
  · exact Nat.lt_of_lt_of_le (Nat.succ_lt_succ room) (by decide)
  · intro handle later
    change state.world.service.ids.issued + 1 < handle.id at later
    have apart : handle ≠ state.world.service.ids.next := by
      intro same
      subst same
      omega
    rw [Function.update_of_ne apart]
    exact sound.fresh handle (by omega)
  · intro handle listener present
    exact kept fresh (sound.listening handle listener present) nofun
  · intro handle context present
    obtain ⟨waits, situated⟩ := sound.waiting handle context present
    exact ⟨kept fresh waits nofun, situated⟩
  · intro handle owned
    obtain rfl := Option.some.inj (named.symm.trans owned)
    exact Function.update_self ..
  · intro endpoint owned
    exact sound.inHand caller task endpoint running (sameHand.symm.trans owned)
  · intro endpoint
    by_cases mine : place endpoint = .inCall caller
    · rw [mine]
      have before := sound.held running (sound.endpoint?_of_inCall running mine)
      refine .inr (.inCall (State.calls_proceed_self ..) ?_)
      exact (held fate endpoint _ before).mono fun handle taken => kept fresh taken nofun
    · exact .inl ⟨rfl, rfl, mine, fun _ _ _ present => present⟩

/-- The fate of one handle changes with what is kept under it. -/
theorem Sound.settle {handle : Handle} {old new : Fate} {place' : EndpointId → Place}
    {world : World} (sound : Sound fate place state)
    (unfinished : ∀ call outcome, state.calls caller ≠ some ⟨call, .returned outcome⟩)
    (before : fate handle = old) (issued : old ≠ .fresh)
    (own : ∀ other, other ≠ caller → old ≠ .named other)
    (unanswered : ∀ endpoint, old ≠ .answered endpoint)
    (sameIds : world.service.ids = state.world.service.ids)
    (hands : ∀ other endpoint, other ≠ caller → place endpoint = .inCall other →
      place' endpoint = .inCall other)
    (listening : ∀ name listener, world.service.listeners.get? name = some listener →
      Function.update fate handle new name = .listening)
    (waiting : ∀ name context, world.service.requests.get? name = some context →
      Function.update fate handle new name = .waiting context.endpoint ∧
        place' context.endpoint = .waiting name)
    (unnamed : task.stage.handle? = none)
    (inHand : ∀ endpoint, task.stage.endpoint? = some endpoint → place' endpoint = .inCall caller)
    (recorded : ∀ endpoint,
      (place' endpoint = place endpoint ∧
        world.connections endpoint = state.world.connections endpoint ∧
        place endpoint ≠ .inCall caller ∧
        ∀ name context, place endpoint = .waiting name →
          state.world.service.requests.get? name = some context →
            world.service.requests.get? name = some context) ∨
      Situation (Function.update fate handle new) (state.proceed caller world task) endpoint
        (place' endpoint) (world.connections endpoint)) :
    Sound (Function.update fate handle new) place' (state.proceed caller world task) := by
  refine sound.proceed unfinished ?_ hands ?_ ?_ ?_ listening waiting ?_ inHand recorded
  · intro other name different owned
    exact kept before owned fun same => own other different same.symm
  · intro endpoint name taken
    exact kept before taken fun same => unanswered endpoint same.symm
  · rw [sameIds]
    exact sound.issued
  · intro name later
    rw [sameIds] at later
    exact kept before (sound.fresh name later) fun same => issued same.symm
  · intro name named
    rw [unnamed] at named
    contradiction

/-- A listener is kept under the handle that was issued for it. -/
theorem Sound.keepListener {listener : ListenerId} (sound : Sound fate place state)
    (running : state.calls caller = some ⟨call, .namedListener listener handle⟩) :
    Sound (Function.update fate handle .listening) place
      (state.proceed caller
        { state.world with
          service.listeners := state.world.service.listeners.store handle listener }
        ⟨call, .returned (.ok (.handle handle))⟩) := by
  have mine := sound.named caller _ handle running rfl
  refine sound.settle (by simp [running]) mine nofun ?_ nofun rfl (fun _ _ _ same => same) ?_ ?_ rfl
    nofun ?_
  · intro other different same
    exact different (Fate.named.inj same).symm
  · intro name socket present
    by_cases same : name = handle
    · subst same
      exact Function.update_self ..
    · rw [Table.get?_store_of_ne same] at present
      exact kept mine (sound.listening name socket present) nofun
  · intro name context present
    obtain ⟨waits, situated⟩ := sound.waiting name context present
    exact ⟨kept mine waits nofun, situated⟩
  · intro endpoint
    refine .inl ⟨rfl, rfl, ?_, fun _ _ _ present => present⟩
    intro inHand
    have owned := sound.endpoint?_of_inCall running inHand
    contradiction

/-- A request is kept under the handle that was issued for it. -/
theorem Sound.keepRequest {endpoint : EndpointId} (sound : Sound fate place state)
    (running : state.calls caller = some ⟨call, .namedRequest endpoint request handle⟩) :
    Sound (Function.update fate handle (.waiting endpoint))
      (Function.update place endpoint (.waiting handle))
      (state.proceed caller
        ({ state.world with service.requests :=
            state.world.service.requests.store handle (contextOf endpoint request) }.note endpoint
          fun connection => { connection with handles := connection.handles ++ [handle] })
        ⟨call, .returned (.ok (.request (incomingOf handle request)))⟩) := by
  have mine := sound.named caller _ handle running rfl
  have inHand := sound.inHand caller _ endpoint running rfl
  have held := sound.held running rfl
  refine sound.settle (by simp [running]) mine nofun ?_ nofun rfl ?_ ?_ ?_ rfl nofun ?_
  · intro other different same
    exact different (Fate.named.inj same).symm
  · intro other held different owned
    have apart : held ≠ endpoint := by
      intro same
      subst same
      exact different (Place.inCall.inj (owned.symm.trans inHand))
    rw [Function.update_of_ne apart, owned]
  · intro name listener present
    exact kept mine (sound.listening name listener present) nofun
  · intro name context present
    by_cases same : name = handle
    · subst same
      obtain rfl := Option.some.inj ((Table.get?_store ..).symm.trans present)
      exact ⟨Function.update_self .., Function.update_self ..⟩
    · have before := (Table.get?_store_of_ne same _).symm.trans present
      obtain ⟨waits, situated⟩ := sound.waiting name context before
      have apart : context.endpoint ≠ endpoint := by
        intro same
        subst same
        rw [inHand] at situated
        contradiction
      rw [Function.update_of_ne apart]
      exact ⟨kept mine waits nofun, situated⟩
  · intro other
    by_cases same : other = endpoint
    · subst same
      refine .inr ?_
      rw [Function.update_self, World.connections_note_self]
      generalize state.world.connections other = connection at held
      cases held
      exact .waiting (Table.get?_store ..)
    · refine .inl ⟨Function.update_of_ne same .., World.connections_note_of_ne same .., ?_, ?_⟩
      · intro stillMine
        exact same (Option.some.inj (sound.endpoint?_of_inCall running stillMine)).symm
      · intro name context _ present
        have apart : name ≠ handle := by
          intro same
          subst same
          have waits := (sound.waiting name context present).1
          rw [mine] at waits
          contradiction
        exact (Table.get?_store_of_ne apart _).trans present

/-- A request is taken out of the table, and its connection is in the hands of the call. -/
theorem Sound.take {context : RequestContext} (sound : Sound fate place state)
    (running : state.calls caller = some task) (free : task.stage.endpoint? = none)
    (unfinished : ∀ call outcome, state.calls caller ≠ some ⟨call, .returned outcome⟩)
    (present : state.world.service.requests.get? handle = some context)
    (unnamed : next.handle? = none) (inHand : next.endpoint? = some context.endpoint)
    (held : ∀ fate request, fate handle = .answered context.endpoint →
      context = contextOf context.endpoint request →
      Held fate caller context.endpoint task.call next
        { accepted := true, requests := [request], handles := [handle], takers := [caller] }) :
    Sound (Function.update fate handle (.answered context.endpoint))
      (Function.update place context.endpoint (.inCall caller))
      (state.proceed caller
        ({ state.world with
            service.requests := state.world.service.requests.drop handle }.note context.endpoint
          fun connection => { connection with takers := connection.takers ++ [caller] })
        ⟨task.call, next⟩) := by
  obtain ⟨mine, situated⟩ := sound.waiting handle context present
  refine sound.settle unfinished mine nofun nofun nofun rfl ?_ ?_ ?_ unnamed ?_ ?_
  · intro other endpoint _ owned
    have apart : endpoint ≠ context.endpoint := by
      intro same
      subst same
      rw [situated] at owned
      contradiction
    rw [Function.update_of_ne apart, owned]
  · intro name listener present
    exact kept mine (sound.listening name listener present) nofun
  · intro name other found
    have apart : name ≠ handle := by
      intro same
      subst same
      rw [World.service_note, Table.get?_drop] at found
      contradiction
    have before := (Table.get?_drop_of_ne apart).symm.trans found
    obtain ⟨waits, elsewhere⟩ := sound.waiting name other before
    have separate : other.endpoint ≠ context.endpoint := by
      intro same
      rw [same, situated] at elsewhere
      exact apart (Place.waiting.inj elsewhere).symm
    rw [Function.update_of_ne separate, Function.update_of_ne apart]
    exact ⟨waits, elsewhere⟩
  · intro endpoint owned
    obtain rfl := Option.some.inj (inHand.symm.trans owned)
    exact Function.update_self ..
  · intro endpoint
    by_cases same : endpoint = context.endpoint
    · subst same
      refine .inr ?_
      rw [Function.update_self, World.connections_note_self]
      have situation := sound.recorded context.endpoint
      rw [situated] at situation
      generalize state.world.connections context.endpoint = connection at situation
      cases situation with
      | waiting stored =>
        have known := Option.some.inj (present.symm.trans stored)
        exact .inCall (State.calls_proceed_self ..) (held _ _ (Function.update_self ..) known)
    · refine .inl ⟨Function.update_of_ne same .., World.connections_note_of_ne same .., ?_, ?_⟩
      · intro stillMine
        have owned := sound.endpoint?_of_inCall running stillMine
        rw [free] at owned
        contradiction
      · intro name other waits found
        have apart : name ≠ handle := by
          intro same
          subst same
          obtain rfl := Option.some.inj (present.symm.trans found)
          have elsewhere := sound.recorded endpoint
          rw [waits] at elsewhere
          generalize state.world.connections endpoint = connection at elsewhere
          cases elsewhere with
          | waiting stored =>
            have known := Option.some.inj (present.symm.trans stored)
            exact same (congrArg RequestContext.endpoint known).symm
        exact (Table.get?_drop_of_ne apart).trans found

/-- A listener is taken out of the table. -/
theorem Sound.closeListener {listener : ListenerId} (sound : Sound fate place state)
    (running : state.calls caller = some ⟨call, .called⟩)
    (present : state.world.service.listeners.get? handle = some listener) :
    Sound (Function.update fate handle .closed) place
      (state.proceed caller
        { state.world with service.listeners := state.world.service.listeners.drop handle }
        ⟨call, .returned outcome⟩) := by
  have mine := sound.listening handle listener present
  refine sound.settle (by simp [running]) mine nofun nofun nofun rfl (fun _ _ _ same => same) ?_ ?_
    rfl nofun ?_
  · intro name socket found
    have apart : name ≠ handle := by
      intro same
      subst same
      rw [Table.get?_drop] at found
      contradiction
    rw [Function.update_of_ne apart]
    exact sound.listening name socket ((Table.get?_drop_of_ne apart).symm.trans found)
  · intro name context found
    obtain ⟨waits, situated⟩ := sound.waiting name context found
    exact ⟨kept mine waits nofun, situated⟩
  · intro endpoint
    refine .inl ⟨rfl, rfl, ?_, fun _ _ _ found => found⟩
    intro inHand
    have owned := sound.endpoint?_of_inCall running inHand
    contradiction

/-- A step of any call leads from one sound assignment to another. -/
theorem Sound.moves (sound : Sound fate place state) (moves : state.Moves limits caller state') :
    Invariant state' := by
  obtain ⟨running, advance⟩ := moves
  rename_i task next world
  have unfinished := state.unfinished running advance
  obtain ⟨call, stage⟩ := task
  cases advance with
  | look seen => exact ⟨fate, place, sound.look running unfinished seen⟩
  | nameListener room =>
    refine ⟨_, place, sound.issue running unfinished room rfl rfl ?_⟩
    intro fate endpoint connection held
    cases held
  | keepListener => exact ⟨_, place, sound.keepListener running⟩
  | connect fresh deadline =>
    refine ⟨fate, _, sound.connect running unfinished rfl fresh rfl ?_
      (.inCall (State.calls_proceed_self ..) .reading)⟩
    intro other owned
    exact ⟨(Option.some.inj owned).symm, rfl⟩
  | lose fresh cause =>
    exact ⟨fate, _, sound.connect running unfinished rfl fresh rfl nofun
      (.finished (.refused (Nat.zero_le 1)))⟩
  | parse read =>
    refine ⟨fate, _, sound.record (.inCall caller) running unfinished rfl rfl ?_ ?_⟩
    · intro other owned
      exact ⟨(Option.some.inj owned).symm, rfl⟩
    · intro connection held
      cases held
      exact .inCall (State.calls_proceed_self ..) .parsed
  | reject sent start =>
    refine ⟨fate, _, sound.record (.inCall caller) running unfinished rfl rfl ?_ ?_⟩
    · intro other owned
      exact ⟨(Option.some.inj owned).symm, rfl⟩
    · intro connection held
      cases held
      exact .inCall (State.calls_proceed_self ..) (.refused (Nat.le_refl 1))
  | nameRequest room =>
    refine ⟨_, place, sound.issue running unfinished room rfl rfl ?_⟩
    intro fate endpoint connection held
    cases held
    exact .named
  | keepRequest => exact ⟨_, _, sound.keepRequest running⟩
  | take checked valid taken =>
    obtain ⟨present, rfl⟩ := Table.take?_eq_some_iff.mp taken
    refine ⟨_, _, sound.take running rfl unfinished present rfl rfl ?_⟩
    intro fate request answered known
    have version := congrArg RequestContext.version known
    rw [version]
    exact .answering checked valid answered known
  | write =>
    refine ⟨fate, _, sound.record (.inCall caller) running unfinished rfl rfl ?_ ?_⟩
    · intro other owned
      exact ⟨(Option.some.inj owned).symm, rfl⟩
    · intro connection held
      cases held with
      | answering checked valid taken known =>
        have headOnly := congrArg RequestContext.headOnly known
        dsimp only
        rw [headOnly]
        exact .inCall (State.calls_proceed_self ..)
          (.served taken (.answered checked valid (List.prefix_refl _) fun _ => rfl))
  | writeFails sent start cause =>
    refine ⟨fate, _, sound.record (.inCall caller) running unfinished rfl rfl ?_ ?_⟩
    · intro other owned
      exact ⟨(Option.some.inj owned).symm, rfl⟩
    · intro connection held
      cases held with
      | answering checked valid taken known =>
        have headOnly := congrArg RequestContext.headOnly known
        rw [headOnly] at start
        exact .inCall (State.calls_proceed_self ..)
          (.served taken (.answered checked valid start nofun))
  | closeListener taken =>
    obtain ⟨present, rfl⟩ := Table.take?_eq_some_iff.mp taken
    exact ⟨_, place, sound.closeListener running present⟩
  | dropRequest taken =>
    obtain ⟨present, rfl⟩ := Table.take?_eq_some_iff.mp taken
    refine ⟨_, _, sound.take running rfl unfinished present rfl rfl ?_⟩
    intro fate request answered known
    exact .served answered .dropped
  | shutDown =>
    refine ⟨fate, _, sound.record .finished running unfinished rfl rfl nofun ?_⟩
    intro connection held
    cases held with
    | refused few => exact .finished (.refused few)
    | served taken answers =>
      exact .finished (.served (State.calls_proceed_self ..) taken answers)

theorem Invariant.step (invariant : Invariant state) (step : State.Step limits state state') :
    Invariant state' := by
  obtain ⟨fate, place, sound⟩ := invariant
  cases step with
  | start idle call => exact ⟨fate, place, sound.start idle call⟩
  | move moves => exact sound.moves moves

theorem invariant_initial : Invariant {} := by
  refine ⟨fun _ => .fresh, fun _ => .unseen, ?_⟩
  refine ⟨by decide, fun _ _ => rfl, ?_, ?_, ?_, ?_, fun _ => .unseen⟩
  · intro handle listener present
    cases present
  · intro handle context present
    cases present
  · intro other task handle running
    cases running
  · intro other task endpoint running
    cases running

/-- Whatever the calls, the order of their steps, the peers and the system do, the invariant
holds. -/
theorem Invariant.run (invariant : Invariant state) (run : State.Run limits state state') :
    Invariant state' := by
  induction run with
  | refl => exact invariant
  | tail _ step ih => exact ih.step step

end ScriptHost.HttpService
