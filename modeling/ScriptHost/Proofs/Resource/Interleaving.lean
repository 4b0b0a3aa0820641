import Mathlib.Data.List.Nodup
import ScriptHost.Proofs.Resource.Requests

/-! Any number of callers at work on tables that may share their allocators. An insertion is two
steps, so others can come between the fetch of its handle and the storing of its resource. -/
namespace ScriptHost

variable {Resource : Type}

/-- A table holds what was stored in it and not removed. Nothing is removed that was not stored, and
nothing twice. -/
structure Table.Tracks (table : Table Resource) (stored removed : List (Handle × Resource)) :
    Prop where
  live : ∀ handle resource, table.get? handle = some resource ↔
    (handle, resource) ∈ stored ∧ ∀ other, (handle, other) ∉ removed
  known : ∀ entry ∈ removed, entry ∈ stored
  once : (removed.map (·.1)).Nodup
  size : table.size + removed.length = stored.length

namespace Table.Tracks

variable {table : Table Resource} {stored removed : List (Handle × Resource)} {handle : Handle}
  {resource : Resource}

theorem get?_eq_none (tracks : table.Tracks stored removed)
    (fresh : ∀ other, (handle, other) ∉ stored) : table.get? handle = none := by
  cases held : table.get? handle with
  | none => rfl
  | some other => exact absurd ((tracks.live handle other).mp held).1 (fresh other)

/-- Under a handle that was not used before, storing overwrites nothing. -/
theorem store (tracks : table.Tracks stored removed) (fresh : ∀ other, (handle, other) ∉ stored)
    (resource : Resource) :
    (table.store handle resource).Tracks (stored ++ [(handle, resource)]) removed where
  live other item := by
    by_cases same : other = handle
    · subst same
      have unremoved : ∀ item, (other, item) ∉ removed := fun item member =>
        fresh item (tracks.known _ member)
      simp [Table.get?_store, fresh, unremoved, eq_comm]
    · rw [Table.get?_store_of_ne same, tracks.live]
      simp [same]
  known entry member := List.mem_append_left _ (tracks.known entry member)
  once := tracks.once
  size := by
    have grown := Table.size_store (tracks.get?_eq_none fresh) resource
    have before := tracks.size
    rw [List.length_append, List.length_singleton]
    omega

theorem drop (tracks : table.Tracks stored removed) (held : table.get? handle = some resource) :
    (table.drop handle).Tracks stored (removed ++ [(handle, resource)]) := by
  obtain ⟨present, unremoved⟩ := (tracks.live handle resource).mp held
  constructor
  case live =>
    intro other item
    by_cases same : other = handle
    · subst same
      have gone : (other, resource) ∈ removed ++ [(other, resource)] := by simp
      simp only [Table.get?_drop, reduceCtorEq, false_iff]
      exact fun kept => kept.2 resource gone
    · rw [Table.get?_drop_of_ne same, tracks.live]
      simp [same]
  case known =>
    intro entry member
    rcases List.mem_append.mp member with earlier | last
    · exact tracks.known entry earlier
    · exact List.mem_singleton.mp last ▸ present
  case once =>
    have absent : handle ∉ removed.map (·.1) := by
      intro member
      obtain ⟨⟨_, other⟩, earlier, rfl⟩ := List.mem_map.mp member
      exact unremoved other earlier
    rw [List.map_append]
    exact List.nodup_append_comm.mp (List.nodup_cons.mpr ⟨absent, tracks.once⟩)
  case size =>
    have shrunk := Table.size_drop held
    have before := tracks.size
    rw [List.length_append, List.length_singleton]
    omega

theorem without (tracks : table.Tracks stored removed) {taken : Option (Handle × Resource)}
    (held : ∀ handle resource, taken = some (handle, resource) →
      table.get? handle = some resource) :
    (table.without taken).Tracks stored (removed ++ taken.toList) := by
  cases taken with
  | none => simpa [Table.without] using tracks
  | some entry => exact tracks.drop (held entry.1 entry.2 rfl)

end Table.Tracks

namespace Pool

variable {Caller : Type}

/-- An insertion by a caller into the table of an index, with the handle that was fetched for it. -/
structure Insertion (Caller Resource : Type) where
  caller : Caller
  index : Nat
  handle : Handle
  resource : Resource

/-- A step of a caller: one of the halves of an insertion, or any other request with its answer. -/
inductive Event (Caller Resource : Type) where
  | fetched (insertion : Insertion Caller Resource)
  | stored (insertion : Insertion Caller Resource)
  | answered (caller : Caller) (index : Nat) (request : TableRequest Resource)
      (answer : TableAnswer Resource)

/-- The tables, and the insertions that have fetched a handle but stored nothing yet. -/
structure State (Caller Resource : Type) where
  pool : Pool Resource
  pending : List (Insertion Caller Resource) := []

/-- A caller does one thing at a time. -/
def State.Idle (state : State Caller Resource) (caller : Caller) : Prop :=
  ∀ insertion ∈ state.pending, insertion.caller ≠ caller

inductive Step : State Caller Resource → Event Caller Resource → State Caller Resource → Prop where
  | fetch (idle : state.Idle caller) (fetched : state.pool.fetch? index = some (handle, pool))
      (resource : Resource) :
      Step state (.fetched ⟨caller, index, handle, resource⟩)
        ⟨pool, state.pending ++ [⟨caller, index, handle, resource⟩]⟩
  | store (begun : state.pending = front ++ insertion :: back)
      (stored : state.pool.store? insertion.index insertion.handle insertion.resource =
        some pool) :
      Step state (.stored insertion) ⟨pool, front ++ back⟩
  | answer (idle : state.Idle caller) (other : ∀ resource, request ≠ .insert resource)
      (answered : state.pool.answer? index request = some (answer, pool)) :
      Step state (.answered caller index request answer) ⟨pool, state.pending⟩

/-- Steps of any callers in any order, with what happened in them. -/
inductive Run (start : State Caller Resource) :
    List (Event Caller Resource) → State Caller Resource → Prop where
  | nil : Run start [] start
  | snoc (run : Run start events state) (step : Step state event next) :
      Run start (events ++ [event]) next

/-- An insertion that is answered at once is both its steps with nothing between. -/
theorem Run.insert {start : State Caller Resource} {pool next : Pool Resource}
    (run : Run start events ⟨pool, pending⟩) (idle : State.Idle ⟨pool, pending⟩ caller)
    (answered : pool.answer? index (.insert resource) = some (answer, next)) :
    ∃ handle, answer = .issued handle ∧
      Run start (events ++ [.fetched ⟨caller, index, handle, resource⟩] ++
        [.stored ⟨caller, index, handle, resource⟩]) ⟨next, pending⟩ := by
  rw [answer?_insert] at answered
  obtain ⟨⟨handle, between⟩, fetched, rest⟩ := Option.bind_eq_some_iff.mp answered
  obtain ⟨_, stored, same⟩ := Option.map_eq_some_iff.mp rest
  obtain ⟨rfl, rfl⟩ := Prod.mk.inj same
  refine ⟨handle, rfl, ?_⟩
  have begun : Run start _ ⟨between, pending ++ [⟨caller, index, handle, resource⟩]⟩ :=
    run.snoc (.fetch idle fetched resource)
  have done := begun.snoc (.store rfl stored)
  rwa [List.append_nil] at done

/-! What can be told of a run by what happened in it. -/

def fetched (events : List (Event Caller Resource)) : List (Insertion Caller Resource) :=
  events.filterMap fun
    | .fetched insertion => some insertion
    | _ => none

def stored (events : List (Event Caller Resource)) : List (Insertion Caller Resource) :=
  events.filterMap fun
    | .stored insertion => some insertion
    | _ => none

/-- What was stored in one table. -/
def storedIn (index : Nat) (events : List (Event Caller Resource)) : List (Handle × Resource) :=
  ((stored events).filter (·.index = index)).map fun insertion =>
    (insertion.handle, insertion.resource)

/-- What was removed from one table. -/
def removedFrom (index : Nat) (events : List (Event Caller Resource)) : List (Handle × Resource) :=
  events.filterMap fun
    | .answered _ asked request answer => if asked = index then removed? request answer else none
    | _ => none

/-- A resource was stored in a table under a handle and not removed since. -/
def Live (events : List (Event Caller Resource)) (index : Nat) (handle : Handle)
    (resource : Resource) : Prop :=
  (handle, resource) ∈ storedIn index events ∧
    ∀ other, (handle, other) ∉ removedFrom index events

variable {events : List (Event Caller Resource)} {insertion : Insertion Caller Resource}

@[simp] theorem fetched_snoc_fetched :
    fetched (events ++ [.fetched insertion]) = fetched events ++ [insertion] := by
  simp [fetched]

@[simp] theorem fetched_snoc_stored :
    fetched (events ++ [.stored insertion]) = fetched events := by
  simp [fetched]

@[simp] theorem fetched_snoc_answered :
    fetched (events ++ [.answered caller index request answer]) = fetched events := by
  simp [fetched]

@[simp] theorem stored_snoc_fetched :
    stored (events ++ [.fetched insertion]) = stored events := by
  simp [stored]

@[simp] theorem stored_snoc_stored :
    stored (events ++ [.stored insertion]) = stored events ++ [insertion] := by
  simp [stored]

@[simp] theorem stored_snoc_answered :
    stored (events ++ [.answered caller index request answer]) = stored events := by
  simp [stored]

theorem mem_storedIn_iff {handle : Handle} {resource : Resource} :
    (handle, resource) ∈ storedIn index events ↔ ∃ insertion ∈ stored events,
      insertion.index = index ∧ insertion.handle = handle ∧ insertion.resource = resource := by
  simp [storedIn, and_assoc]

@[simp] theorem storedIn_snoc_fetched (index : Nat) :
    storedIn index (events ++ [.fetched insertion]) = storedIn index events := by
  simp [storedIn]

@[simp] theorem storedIn_snoc_stored (index : Nat) :
    storedIn index (events ++ [.stored insertion]) = storedIn index events ++
      if insertion.index = index then [(insertion.handle, insertion.resource)] else [] := by
  by_cases here : insertion.index = index <;> simp [storedIn, here]

@[simp] theorem storedIn_snoc_answered (index : Nat) :
    storedIn index (events ++ [.answered caller asked request answer]) =
      storedIn index events := by
  simp [storedIn]

@[simp] theorem removedFrom_snoc_fetched (index : Nat) :
    removedFrom index (events ++ [.fetched insertion]) = removedFrom index events := by
  simp [removedFrom]

@[simp] theorem removedFrom_snoc_stored (index : Nat) :
    removedFrom index (events ++ [.stored insertion]) = removedFrom index events := by
  simp [removedFrom]

@[simp] theorem removedFrom_snoc_answered (index : Nat) :
    removedFrom index (events ++ [.answered caller asked request answer]) =
      removedFrom index events ++
        if asked = index then (removed? request answer).toList else [] := by
  by_cases here : asked = index <;> cases taken : removed? request answer <;>
    simp [removedFrom, here, taken]

/-- The allocator that a table draws from. -/
def owner? (pool : Pool Resource) (index : Nat) : Option Nat := pool.tables[index]?.map (·.1)

/-- The handles of the insertions into tables that draw from one allocator. -/
def drawn (pool : Pool Resource) (allocator : Nat) (insertions : List (Insertion Caller Resource)) :
    List Nat :=
  (insertions.filter fun insertion => pool.owner? insertion.index = some allocator).map
    (·.handle.id)

/-- Tables that nothing was done with yet, each with an allocator. -/
structure Unused (pool : Pool Resource) : Prop where
  allocators : ∀ ids ∈ pool.allocators, ids.issued = 0
  tables : ∀ entry ∈ pool.tables, entry.1 < pool.allocators.size ∧
    entry.2.entries = SortedMap.empty

end Pool

end ScriptHost
