import ScriptHost.Proofs.Resource.Interleaving

/-! Handles are never lost, shared or used again, in whatever order the callers take their steps.
One invariant relates the counters, the insertions under way and the tables to what has happened. -/
namespace ScriptHost.Pool

variable {Resource Caller : Type} {start : Pool Resource} {state : State Caller Resource}
  {events : List (Event Caller Resource)}

/-- What holds of tables after any steps of any callers. -/
structure Sound (start : Pool Resource) (events : List (Event Caller Resource))
    (state : State Caller Resource) : Prop where
  placed : ∀ insertion ∈ fetched events, ∃ allocator < start.allocators.size,
    start.owner? insertion.index = some allocator
  /-- Handles are counted up from one. -/
  consecutive : ∀ allocator < start.allocators.size, ∃ count,
    start.drawn allocator (fetched events) = List.range' 1 count
  /-- An insertion stores under the handle that it fetched. -/
  returned : (fetched events).Perm (stored events ++ state.pending)
  distinct : ∀ allocator < start.allocators.size, (start.drawn allocator (stored events)).Nodup
  nonzero : ∀ insertion ∈ stored events, insertion.handle.id ≠ 0
  /-- What is about to be stored can be, and overwrites nothing. -/
  ready : ∀ insertion ∈ state.pending, ∃ next,
    state.pool.store? insertion.index insertion.handle insertion.resource = some next
  vacant : ∀ insertion ∈ state.pending, ∀ entry ∈ state.pool.tables,
    start.owner? insertion.index = some entry.1 → entry.2.contains insertion.handle = false
  single : ∀ (first second owner : Nat) (left right : Table Resource) (handle : Handle),
    state.pool.tables[first]? = some (owner, left) →
      state.pool.tables[second]? = some (owner, right) →
        left.contains handle = true → right.contains handle = true → first = second
  due : ∀ (index owner : Nat) (table : Table Resource) (request : TableRequest Resource),
    start.tables[index]? = some (owner, table) →
    (∀ resource, request ≠ .insert resource) → ∃ answer next,
      state.pool.answer? index request = some (answer, next) ∧
        Due table.kind (Live events index) request answer
  tracks : ∀ (index owner : Nat) (table : Table Resource),
    state.pool.tables[index]? = some (owner, table) →
      table.Tracks (storedIn index events) (removedFrom index events)

/-- The invariant. Which handles an allocator issued is told by its counter; each of them was stored
or is still in the hands of its caller. -/
structure Kept (start : Pool Resource) (events : List (Event Caller Resource))
    (state : State Caller Resource) : Prop where
  tables : ∀ index : Nat, (state.pool.tables[index]?.map fun entry => (entry.1, entry.2.kind)) =
    start.tables[index]?.map fun entry => (entry.1, entry.2.kind)
  size : state.pool.allocators.size = start.allocators.size
  owned : ∀ insertion ∈ fetched events, ∃ owner, start.owner? insertion.index = some owner
  issued : ∀ (allocator : Nat) (ids : Allocator), state.pool.allocators[allocator]? = some ids →
    start.drawn allocator (fetched events) = List.range' 1 ids.issued
  returned : (fetched events).Perm (stored events ++ state.pending)
  tracks : ∀ (index owner : Nat) (table : Table Resource),
    state.pool.tables[index]? = some (owner, table) →
      table.Tracks (storedIn index events) (removedFrom index events)

theorem drawn_append (start : Pool Resource) (allocator : Nat)
    (front back : List (Insertion Caller Resource)) :
    start.drawn allocator (front ++ back) =
      start.drawn allocator front ++ start.drawn allocator back := by
  simp [drawn]

theorem drawn_perm {first second : List (Insertion Caller Resource)} (same : first.Perm second)
    (allocator : Nat) : (start.drawn allocator first).Perm (start.drawn allocator second) :=
  (same.filter _).map _

theorem drawn_singleton {insertion : Insertion Caller Resource}
    (owned : start.owner? insertion.index = some owner) (allocator : Nat) :
    start.drawn allocator [insertion] =
      if owner = allocator then [insertion.handle.id] else [] := by
  by_cases same : owner = allocator <;> simp [drawn, owned, same]

theorem mem_drawn {insertion : Insertion Caller Resource}
    {insertions : List (Insertion Caller Resource)}
    (member : insertion ∈ insertions) (owned : start.owner? insertion.index = some allocator) :
    insertion.handle.id ∈ start.drawn allocator insertions :=
  List.mem_map.mpr ⟨insertion, List.mem_filter.mpr ⟨member, decide_eq_true owned⟩, rfl⟩

theorem Unused.owner_lt (unused : start.Unused) (owned : start.owner? index = some owner) :
    owner < start.allocators.size := by
  obtain ⟨⟨_, table⟩, there, rfl⟩ := Option.map_eq_some_iff.mp owned
  exact (unused.tables _ (Array.mem_of_getElem? there)).1

theorem kept_initial (unused : start.Unused) :
    Kept start ([] : List (Event Caller Resource)) ⟨start, []⟩ where
  tables _ := rfl
  size := rfl
  owned := List.forall_mem_nil _
  issued allocator ids there := by
    rw [unused.allocators ids (Array.mem_of_getElem? there)]
    rfl
  returned := .nil
  tracks index owner table there := by
    obtain ⟨_, empty⟩ := unused.tables _ (Array.mem_of_getElem? there)
    have nothing (handle : Handle) : table.get? handle = none := by
      rw [Table.get?, show table.entries = SortedMap.empty from empty]
      rfl
    refine ⟨by simp [nothing, storedIn, stored], List.forall_mem_nil _, .nil, ?_⟩
    rw [Table.size, show table.entries = SortedMap.empty from empty]
    rfl

variable {insertion : Insertion Caller Resource}

namespace Kept

/-- The tables keep their allocators. -/
theorem owner?_eq (kept : Kept start events state)
    (there : state.pool.tables[index]? = some (owner, table)) :
    start.owner? index = some owner := by
  have same := congrArg (Option.map Prod.fst) (kept.tables index)
  rw [there] at same
  simpa [owner?, Function.comp_def] using same.symm

theorem table_now {index owner : Nat} {first : Table Resource} (kept : Kept start events state)
    (there : start.tables[index]? = some (owner, first)) :
    ∃ table : Table Resource,
      state.pool.tables[index]? = some (owner, table) ∧ table.kind = first.kind := by
  have same := kept.tables index
  rw [there] at same
  obtain ⟨⟨_, table⟩, now, same⟩ := Option.map_eq_some_iff.mp same
  obtain ⟨rfl, kind⟩ := Prod.mk.inj same
  exact ⟨table, now, kind⟩

theorem fetch (kept : Kept start events state) (unused : start.Unused)
    (step : state.pool.fetch? insertion.index = some (insertion.handle, pool))
    (room : ∀ allocator,
      (start.drawn allocator (fetched events ++ [insertion])).length ≤ UInt64.size - 1) :
    Kept start (events ++ [.fetched insertion]) ⟨pool, state.pending ++ [insertion]⟩ := by
  obtain ⟨owner, table, there, issued, rfl⟩ := fetch?_eq_some_iff.mp step
  have owned := kept.owner?_eq there
  have inside := kept.size ▸ unused.owner_lt owned
  obtain ⟨ids, known⟩ : ∃ ids, state.pool.allocators[owner]? = some ids :=
    ⟨_, Array.getElem?_eq_getElem inside⟩
  have current : state.pool.allocators.getD owner {} = ids := by
    rw [Array.getD_eq_getD_getElem?, known, Option.getD_some]
  have counted := kept.issued owner ids known
  have next : insertion.handle.id = ids.issued + 1 := by
    have below := room owner
    rw [drawn_append, counted, drawn_singleton owned, if_pos rfl, List.length_append,
      List.length_range', List.length_singleton] at below
    rw [issued, current]
    exact Allocator.id_next below
  constructor
  case tables => exact kept.tables
  case size => rw [Array.size_setIfInBounds, kept.size]
  case owned =>
    rw [fetched_snoc_fetched]
    exact List.forall_mem_append.mpr ⟨kept.owned, List.forall_mem_singleton.mpr ⟨owner, owned⟩⟩
  case issued =>
    intro allocator later present
    rw [current, Array.getElem?_setIfInBounds, if_pos inside] at present
    rw [fetched_snoc_fetched, drawn_append, drawn_singleton owned]
    split at present
    · rename_i same
      subst same
      obtain rfl := Option.some.inj present
      rw [if_pos rfl, counted, next, Nat.add_comm]
      exact (List.range'_1_concat ..).symm
    · rename_i other
      rw [if_neg other, List.append_nil, kept.issued allocator later present]
  case returned =>
    rw [fetched_snoc_fetched, stored_snoc_fetched, ← List.append_assoc]
    exact kept.returned.append_right _
  case tracks => simpa using kept.tracks

theorem nodup_drawn (kept : Kept start events state) (inside : allocator < start.allocators.size) :
    (start.drawn allocator (stored events) ++ start.drawn allocator state.pending).Nodup := by
  rw [← drawn_append]
  refine (drawn_perm kept.returned allocator).nodup_iff.mp ?_
  rw [kept.issued allocator _ (Array.getElem?_eq_getElem (kept.size ▸ inside))]
  exact List.nodup_range'

/-- No table of the allocator has seen a handle that is still to be used. -/
theorem fresh (kept : Kept start events state) (unused : start.Unused)
    (begun : insertion ∈ state.pending) (owned : start.owner? insertion.index = some owner)
    (there : state.pool.tables[index]? = some (owner, table)) :
    ∀ resource, (insertion.handle, resource) ∉ storedIn index events := by
  intro resource member
  obtain ⟨earlier, used, rfl, same, _⟩ := mem_storedIn_iff.mp member
  -- The allocator issued the number once, so it is not both stored and in flight.
  have before := mem_drawn used (kept.owner?_eq there)
  rw [same] at before
  exact (kept.nodup_drawn (unused.owner_lt owned)).disjoint before (mem_drawn begun owned)

/-- A handle is stored in one table only of those with its allocator. -/
theorem stored_once (kept : Kept start events state) (unused : start.Unused)
    (first : left ∈ stored events) (second : right ∈ stored events)
    (owned : start.owner? left.index = some owner)
    (also_owned : start.owner? right.index = some owner) (same : left.handle = right.handle) :
    left = right := by
  have distinct := (kept.nodup_drawn (unused.owner_lt owned)).of_append_left
  exact List.inj_on_of_nodup_map distinct (List.mem_filter.mpr ⟨first, decide_eq_true owned⟩)
    (List.mem_filter.mpr ⟨second, decide_eq_true also_owned⟩) (congrArg Handle.id same)

/-- A change to one table leaves all else alone. -/
theorem setTable (kept : Kept start events state)
    (there : state.pool.tables[index]? = some (owner, table)) (kind : changed.kind = table.kind)
    (issued : fetched later = fetched events)
    (returned : (fetched events).Perm (stored later ++ pending))
    (here : changed.Tracks (storedIn index later) (removedFrom index later))
    (elsewhere : ∀ other, index ≠ other →
      storedIn other later = storedIn other events ∧
        removedFrom other later = removedFrom other events) :
    Kept start later ⟨state.pool.setTable index owner changed, pending⟩ := by
  constructor
  case tables =>
    intro other
    rw [tables_setTable there, ← kept.tables]
    split
    · rename_i same
      rw [← same, there, Option.map_some, Option.map_some, kind]
    · rfl
  case size => exact kept.size
  case owned => exact issued ▸ kept.owned
  case issued => exact issued ▸ kept.issued
  case returned => exact issued ▸ returned
  case tracks =>
    intro other _ _ present
    rw [tables_setTable there] at present
    split at present
    · rename_i same
      obtain ⟨rfl, rfl⟩ := Prod.mk.inj (Option.some.inj present)
      exact same ▸ here
    · rename_i apart
      obtain ⟨same_stored, same_removed⟩ := elsewhere other apart
      rw [same_stored, same_removed]
      exact kept.tracks other _ _ present

theorem store (kept : Kept start events state) (unused : start.Unused)
    (begun : state.pending = front ++ insertion :: back)
    (step : state.pool.store? insertion.index insertion.handle insertion.resource = some pool) :
    Kept start (events ++ [.stored insertion]) ⟨pool, front ++ back⟩ := by
  obtain ⟨owner, table, there, rfl⟩ := store?_eq_some_iff.mp step
  have member : insertion ∈ state.pending := by simp [begun]
  have fresh := kept.fresh unused member (kept.owner?_eq there) there
  have moved : (stored events ++ state.pending).Perm
      (stored events ++ [insertion] ++ (front ++ back)) := by
    rw [begun, List.append_assoc]
    exact List.perm_middle.append_left _
  refine kept.setTable there rfl fetched_snoc_stored ?_ ?_ fun other apart => ?_
  · rw [stored_snoc_stored]
    exact kept.returned.trans moved
  · rw [storedIn_snoc_stored, removedFrom_snoc_stored, if_pos rfl]
    exact (kept.tracks _ _ _ there).store fresh insertion.resource
  · simp [apart]

theorem answered {answer : TableAnswer Resource} (kept : Kept start events state)
    (other : ∀ resource, request ≠ .insert resource)
    (step : state.pool.answer? index request = some (answer, pool)) (caller : Caller) :
    Kept start (events ++ [.answered caller index request answer]) ⟨pool, state.pending⟩ := by
  obtain ⟨⟨owner, table⟩, there, _⟩ := Option.map_eq_some_iff.mp step
  obtain ⟨_, due, shown⟩ := due_of_answer? there other
  obtain ⟨rfl, rfl⟩ := Prod.mk.inj (Option.some.inj (step.symm.trans shown))
  refine kept.setTable there (Table.kind_without ..) fetched_snoc_answered ?_ ?_
    fun other apart => ?_
  · rw [stored_snoc_answered]
    exact kept.returned
  · rw [storedIn_snoc_answered, removedFrom_snoc_answered, if_pos rfl]
    exact (kept.tracks _ _ _ there).without fun _ _ => due.live_of_removed?
  · simp [apart]

end Kept

theorem length_drawn_le (start : Pool Resource) (allocator : Nat)
    (front back : List (Insertion Caller Resource)) :
    (start.drawn allocator front).length ≤ (start.drawn allocator (front ++ back)).length := by
  rw [drawn_append, List.length_append]
  exact Nat.le_add_right ..

/-- By induction over the run, one case for each kind of step. -/
theorem kept_of_run (unused : start.Unused) (run : Run ⟨start, []⟩ events state)
    (room : ∀ allocator, (start.drawn allocator (fetched events)).length ≤ UInt64.size - 1) :
    Kept start events state := by
  induction run with
  | nil => exact kept_initial unused
  | snoc run step ih =>
    cases step with
    | fetch idle step resource =>
      rw [fetched_snoc_fetched] at room
      have kept := ih fun allocator =>
        Nat.le_trans (length_drawn_le start allocator _ _) (room allocator)
      exact kept.fetch unused step room
    | store begun step =>
      rw [fetched_snoc_stored] at room
      exact (ih room).store unused begun step
    | answer idle other step =>
      rw [fetched_snoc_answered] at room
      exact (ih room).answered other step _

/-- Whatever the callers do, and however their steps fall between each other. -/
theorem sound_of_run (unused : start.Unused) (run : Run ⟨start, []⟩ events state)
    (room : ∀ allocator, (start.drawn allocator (fetched events)).length ≤ UInt64.size - 1) :
    Sound start events state := by
  have kept := kept_of_run unused run room
  constructor
  case placed =>
    intro insertion member
    obtain ⟨owner, owned⟩ := kept.owned insertion member
    exact ⟨owner, unused.owner_lt owned, owned⟩
  case consecutive =>
    intro allocator inside
    rw [← kept.size] at inside
    exact ⟨_, kept.issued allocator _ (Array.getElem?_eq_getElem inside)⟩
  case returned => exact kept.returned
  case distinct =>
    exact fun allocator inside => (kept.nodup_drawn inside).of_append_left
  case nonzero => exact fun insertion _ => Nat.pos_iff_ne_zero.mp insertion.handle.id_pos
  case ready =>
    intro insertion begun
    have member := kept.returned.mem_iff.mpr (List.mem_append_right _ begun)
    obtain ⟨_, owned⟩ := kept.owned insertion member
    obtain ⟨⟨_, _⟩, there, _⟩ := Option.map_eq_some_iff.mp owned
    obtain ⟨table, now, _⟩ := kept.table_now there
    exact ⟨_, store?_eq_some_iff.mpr ⟨_, table, now, rfl⟩⟩
  case vacant =>
    intro insertion begun entry member owned
    obtain ⟨index, there⟩ := Array.mem_iff_getElem?.mp member
    have tracks := kept.tracks index entry.1 entry.2 there
    rw [Table.contains, tracks.get?_eq_none (kept.fresh unused begun owned there)]
    rfl
  case single =>
    intro first second owner left right handle there elsewhere held also_held
    obtain ⟨_, found⟩ := Table.contains_iff.mp held
    obtain ⟨_, also_found⟩ := Table.contains_iff.mp also_held
    have known := ((kept.tracks first owner left there).live _ _).mp found
    have also_known := ((kept.tracks second owner right elsewhere).live _ _).mp also_found
    obtain ⟨_, stored, rfl, rfl, _⟩ := mem_storedIn_iff.mp known.1
    obtain ⟨_, also_stored, rfl, same, _⟩ := mem_storedIn_iff.mp also_known.1
    rw [kept.stored_once unused stored also_stored (kept.owner?_eq there)
      (kept.owner?_eq elsewhere) same.symm]
  case due =>
    intro index owner first request there other
    obtain ⟨table, now, kind⟩ := kept.table_now there
    obtain ⟨answer, due, answered⟩ := due_of_answer? now other
    have live : (fun handle resource => table.get? handle = some resource) = Live events index :=
      funext fun handle => funext fun resource =>
        propext ((kept.tracks index _ table now).live handle resource)
    refine ⟨answer, _, answered, ?_⟩
    rw [← kind, ← live]
    exact due
  case tracks => exact kept.tracks

/-- Of two insertions into tables that share an allocator the second stores first, and what it
stored is taken out before the other is done. -/
theorem sound_of_run_crossed :
    let start : Pool String := ⟨#[{}], #[(0, { kind := .socket }), (0, { kind := .listener })]⟩
    let slow : Insertion Nat String := ⟨0, 0, Handle.afterIssuing 0, "slow"⟩
    let fast : Insertion Nat String := ⟨1, 1, Handle.afterIssuing 1, "fast"⟩
    let events := [.fetched slow, .fetched fast, .stored fast,
      .answered 1 1 (.take fast.handle) (.taken (some "fast")), .stored slow]
    ∃ state, Run ⟨start, []⟩ events state ∧ Sound start events state := by
  intro start slow fast events
  have unused : start.Unused := ⟨by decide, by simp [start]⟩
  have room (allocator : Nat) :
      (start.drawn allocator (fetched events)).length ≤ UInt64.size - 1 := by
    rw [drawn, List.length_map]
    exact Nat.le_trans (List.length_filter_le ..) (by decide)
  let issued (count : Nat) : Pool String := { start with allocators := #[⟨count⟩] }
  let listed : Pool String := (issued 2).setTable 1 0
    (Table.store { kind := .listener } fast.handle "fast")
  let emptied : Pool String := listed.setTable 1 0
    ((Table.store { kind := .listener } fast.handle "fast").drop fast.handle)
  have none_begun : State.Idle ⟨start, ([] : List (Insertion Nat String))⟩ 0 := by
    simp [State.Idle]
  have idle (pool : Pool String) : State.Idle ⟨pool, [slow]⟩ 1 := by simp [State.Idle, slow]
  have first : Step ⟨start, []⟩ (.fetched slow) ⟨issued 1, [slow]⟩ := .fetch none_begun rfl "slow"
  have second : Step ⟨issued 1, [slow]⟩ (.fetched fast) ⟨issued 2, [slow, fast]⟩ :=
    .fetch (idle _) rfl "fast"
  have third : Step ⟨issued 2, [slow, fast]⟩ (.stored fast) ⟨listed, [slow] ++ []⟩ :=
    .store rfl rfl
  have fourth : Step ⟨listed, [slow]⟩
      (.answered 1 1 (.take fast.handle) (.taken (some "fast"))) ⟨emptied, [slow]⟩ :=
    .answer (idle _) nofun rfl
  have fifth : Step ⟨emptied, [slow]⟩ (.stored slow)
      ⟨emptied.setTable 0 0 (Table.store { kind := .socket } slow.handle "slow"), [] ++ []⟩ :=
    .store rfl rfl
  have run := ((((Run.nil.snoc first).snoc second).snoc third).snoc fourth).snoc fifth
  exact ⟨_, run, sound_of_run unused run room⟩

end ScriptHost.Pool
