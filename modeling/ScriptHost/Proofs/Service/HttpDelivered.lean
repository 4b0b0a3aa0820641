import ScriptHost.Proofs.Service.HttpSafety

/-! What becomes of a request that was read: the call that keeps it under a handle gives it to its
program with this handle, and nothing takes that back. -/
namespace ScriptHost.HttpService

open Network (EndpointId)

/-- An accept has given the request to its program under the handle. -/
def Given (calls : CallId → Option Task) (handle : Handle) (request : Http.Request) : Prop :=
  ∃ caller server, calls caller =
    some ⟨.accept server, .returned (.ok (.request (incomingOf handle request)))⟩

/-- Every request that was kept under a handle was given to a program with this handle. -/
def Delivered (state : State) : Prop :=
  ∀ endpoint handle request, handle ∈ (state.world.connections endpoint).handles →
    request ∈ (state.world.connections endpoint).requests → Given state.calls handle request

variable {fate : Handle → Fate} {place : EndpointId → Place} {state : State} {caller : CallId}
  {task : Task} {endpoint : EndpointId}

/-- Where a step of a call leaves handles and requests alone, what was delivered stays so. -/
theorem Delivered.frame {connection : Connection} (delivered : Delivered state)
    (endpoint : EndpointId)
    (unfinished : ∀ call outcome, state.calls caller ≠ some ⟨call, .returned outcome⟩)
    (sameHandles : connection.handles = (state.world.connections endpoint).handles)
    (sameRequests : connection.requests = (state.world.connections endpoint).requests)
    (kept : handle ∈ connection.handles) (read : request ∈ connection.requests) :
    Given (Function.update state.calls caller (some task)) handle request := by
  rw [sameHandles] at kept
  rw [sameRequests] at read
  obtain ⟨giver, server, returned⟩ := delivered endpoint handle request kept read
  have different : giver ≠ caller := fun same => unfinished _ _ (same ▸ returned)
  exact ⟨giver, server, (Function.update_of_ne different ..).trans returned⟩

/-- What a change leaves alone is the same on every connection. -/
theorem World.note_of_same {change : Connection → Connection} {touched : EndpointId}
    (value : Connection → Value) (same : ∀ connection, value (change connection) = value connection)
    (world : World) (endpoint : EndpointId) :
    value ((world.note touched change).connections endpoint) =
      value (world.connections endpoint) := by
  by_cases here : endpoint = touched
  · subst here
    rw [World.connections_note_self, same]
  · rw [World.connections_note_of_ne here]

/-- A step that says for one connection what was delivered. -/
theorem Delivered.touch {service : HttpService} {change : Connection → Connection}
    (delivered : Delivered state)
    (unfinished : ∀ call outcome, state.calls caller ≠ some ⟨call, .returned outcome⟩)
    (here : ∀ handle request, handle ∈ (change (state.world.connections endpoint)).handles →
      request ∈ (change (state.world.connections endpoint)).requests →
      Given (Function.update state.calls caller (some task)) handle request) :
    Delivered (state.proceed caller
      ({ state.world with service := service }.note endpoint change) task) := by
  intro other handle request kept read
  by_cases same : other = endpoint
  · subst same
    rw [State.world_proceed, World.connections_note_self] at kept read
    exact here handle request kept read
  · have untouched :=
      World.connections_note_of_ne same { state.world with service := service } change
    exact delivered.frame other unfinished (congrArg _ untouched) (congrArg _ untouched) kept read

theorem Delivered.moves (delivered : Delivered state)
    (sound : Sound fate place state) (moves : state.Moves limits caller state') :
    Delivered state' := by
  obtain ⟨running, advance⟩ := moves
  rename_i task next world
  have unfinished := state.unfinished running advance
  obtain ⟨call, stage⟩ := task
  cases advance with
  | look | nameListener | keepListener | nameRequest | closeListener =>
    intro endpoint handle request kept read
    exact delivered.frame endpoint unfinished rfl rfl kept read
  | connect | lose | reject | take | write | writeFails | dropRequest | shutDown =>
    intro endpoint handle request kept read
    rw [State.world_proceed] at kept read
    refine delivered.frame endpoint unfinished ?_ ?_ kept read
    · apply World.note_of_same Connection.handles
      exact fun _ => rfl
    · apply World.note_of_same Connection.requests
      exact fun _ => rfl
  | parse =>
    -- The call has the connection in hand, and nothing is kept under a handle yet.
    have held := sound.held running rfl
    refine delivered.touch unfinished ?_
    intro handle request kept
    generalize state.world.connections _ = connection at held kept
    cases held
    contradiction
  | keepRequest =>
    have held := sound.held running rfl
    refine delivered.touch unfinished ?_
    intro handle request kept read
    generalize state.world.connections _ = connection at held kept read
    cases held
    obtain rfl := List.mem_singleton.mp kept
    obtain rfl := List.mem_singleton.mp read
    exact ⟨caller, _, Function.update_self ..⟩

theorem Delivered.step (delivered : Delivered state) (sound : Sound fate place state)
    (step : State.Step limits state state') : Delivered state' := by
  cases step with
  | start idle call =>
    intro endpoint handle request kept read
    exact delivered.frame endpoint (by simp [idle]) rfl rfl kept read
  | move moves => exact delivered.moves sound moves

theorem delivered_of_reachable (reachable : State.Reachable limits state) : Delivered state := by
  induction reachable with
  | refl =>
    intro endpoint handle request kept
    contradiction
  | tail before step ih =>
    obtain ⟨fate, place, sound⟩ := invariant_initial.run before
    exact ih.step sound step

end ScriptHost.HttpService
