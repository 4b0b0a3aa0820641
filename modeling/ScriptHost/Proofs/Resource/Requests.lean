import ScriptHost.Proofs.Resource.Tables
import ScriptHost.Resource.Pool

/-! What the tables of a pool have to answer, by the resources that are live in them, and the two
halves of an insertion: a handle is fetched first, and the resource is stored under it later. -/
namespace ScriptHost

variable {Resource : Type}

/-- What a request takes out of a table, by the answer to it. -/
def removed? : TableRequest Resource → TableAnswer Resource → Option (Handle × Resource)
  | .remove handle, .found resource | .take handle, .taken (some resource) =>
    some (handle, resource)
  | _, _ => none

/-- What a table of a kind has to answer to what is no insertion, by what is live in it. -/
inductive Due (kind : ResourceKind) (live : Handle → Resource → Prop) :
    TableRequest Resource → TableAnswer Resource → Prop where
  | got (held : live handle resource) : Due kind live (.get handle) (.found resource)
  | notGot (missing : ∀ resource, ¬live handle resource) :
      Due kind live (.get handle) (.failed (.notFound kind handle.id))
  | removed (held : live handle resource) : Due kind live (.remove handle) (.found resource)
  | notRemoved (missing : ∀ resource, ¬live handle resource) :
      Due kind live (.remove handle) (.failed (.notFound kind handle.id))
  | taken (held : live handle resource) : Due kind live (.take handle) (.taken (some resource))
  | notTaken (missing : ∀ resource, ¬live handle resource) :
      Due kind live (.take handle) (.taken none)
  | held (held : live handle resource) : Due kind live (.contains handle) (.held true)
  | notHeld (missing : ∀ resource, ¬live handle resource) :
      Due kind live (.contains handle) (.held false)
  | kind : Due kind live .kind (.kind kind)

theorem Due.live_of_removed? {kind : ResourceKind} {live : Handle → Resource → Prop}
    (due : Due kind live request answer)
    (removed : removed? request answer = some (handle, resource)) : live handle resource := by
  cases due <;> cases removed <;> assumption

namespace Table

/-- The table without what a request takes out. -/
def without (table : Table Resource) : Option (Handle × Resource) → Table Resource
  | none => table
  | some (handle, _) => table.drop handle

theorem kind_without (table : Table Resource) (taken : Option (Handle × Resource)) :
    (table.without taken).kind = table.kind := by
  cases taken <;> rfl

end Table

namespace Pool

variable {pool : Pool Resource} {index allocator : Nat} {table : Table Resource}

theorem tables_setTable (there : pool.tables[index]? = some entry) (other : Nat) :
    (pool.setTable index allocator table).tables[other]? =
      if index = other then some (allocator, table) else pool.tables[other]? := by
  obtain ⟨inside, _⟩ := Array.getElem?_eq_some_iff.mp there
  rw [setTable, Array.getElem?_setIfInBounds, if_pos inside]

theorem setTable_self (there : pool.tables[index]? = some (allocator, table)) :
    pool.setTable index allocator table = pool := by
  have same : (pool.setTable index allocator table).tables = pool.tables := by
    refine Array.ext_getElem? fun other => ?_
    rw [tables_setTable there]
    split
    · rename_i here
      rw [← here, there]
    · rfl
  exact congrArg (Pool.mk pool.allocators) same

/-- A table answers what is due, and what it gives away is gone from it. -/
theorem due_of_answer? {request : TableRequest Resource}
    (there : pool.tables[index]? = some (allocator, table))
    (other : ∀ resource, request ≠ .insert resource) :
    ∃ answer,
      Due table.kind (fun handle resource => table.get? handle = some resource) request answer ∧
      pool.answer? index request =
        some (answer, pool.setTable index allocator (table.without (removed? request answer))) := by
  have missing {handle : Handle} (absent : table.get? handle = none) :
      ∀ resource, ¬table.get? handle = some resource := by simp [absent]
  cases request with
  | insert resource => exact absurd rfl (other resource)
  | get handle =>
    cases held : table.get? handle with
    | none =>
      refine ⟨_, .notGot (missing held), ?_⟩
      simp [answer?, there, Table.get, Table.notFound, held, removed?, Table.without,
        setTable_self there]
    | some resource =>
      refine ⟨_, .got held, ?_⟩
      simp [answer?, there, Table.get, held, removed?, Table.without, setTable_self there]
  | remove handle =>
    cases held : table.get? handle with
    | none =>
      refine ⟨_, .notRemoved (missing held), ?_⟩
      simp [answer?, there, Table.take?, Table.notFound, held, removed?, Table.without,
        setTable_self there]
    | some resource =>
      refine ⟨_, .removed held, ?_⟩
      simp [answer?, there, Table.take?, held, removed?, Table.without]
  | take handle =>
    cases held : table.get? handle with
    | none =>
      refine ⟨_, .notTaken (missing held), ?_⟩
      simp [answer?, there, Table.take?, held, removed?, Table.without, setTable_self there]
    | some resource =>
      refine ⟨_, .taken held, ?_⟩
      simp [answer?, there, Table.take?, held, removed?, Table.without]
  | contains handle =>
    cases held : table.get? handle with
    | none =>
      refine ⟨_, .notHeld (missing held), ?_⟩
      simp [answer?, there, Table.contains, held, removed?, Table.without, setTable_self there]
    | some resource =>
      refine ⟨_, .held held, ?_⟩
      simp [answer?, there, Table.contains, held, removed?, Table.without, setTable_self there]
  | kind =>
    refine ⟨_, .kind, ?_⟩
    simp [answer?, there, removed?, Table.without, setTable_self there]

/-- The first half of an insertion: the next handle for a table is fetched. -/
def fetch? (pool : Pool Resource) (index : Nat) : Option (Handle × Pool Resource) :=
  pool.tables[index]?.map fun (allocator, _) =>
    let ids := pool.allocators.getD allocator {}
    (ids.next, { pool with allocators := pool.allocators.setIfInBounds allocator ids.advance })

/-- The second half: the resource is stored under the handle. -/
def store? (pool : Pool Resource) (index : Nat) (handle : Handle) (resource : Resource) :
    Option (Pool Resource) :=
  pool.tables[index]?.map fun (allocator, table) =>
    pool.setTable index allocator (table.store handle resource)

/-- An insertion that nothing comes between is one half after the other. -/
theorem answer?_insert (pool : Pool Resource) (index : Nat) (resource : Resource) :
    pool.answer? index (.insert resource) =
      (pool.fetch? index).bind fun (handle, pool) =>
        (pool.store? index handle resource).map fun pool => (.issued handle, pool) := by
  rw [answer?, fetch?]
  cases there : pool.tables[index]? with
  | none => rfl
  | some entry => simp [store?, there, setTable]

theorem fetch?_eq_some_iff {handle : Handle} {next : Pool Resource} :
    pool.fetch? index = some (handle, next) ↔
      ∃ allocator table, pool.tables[index]? = some (allocator, table) ∧
        handle = (pool.allocators.getD allocator {}).next ∧
        next = { pool with
          allocators := pool.allocators.setIfInBounds allocator
            (pool.allocators.getD allocator {}).advance } := by
  rw [fetch?, Option.map_eq_some_iff]
  constructor
  · rintro ⟨⟨allocator, table⟩, there, same⟩
    obtain ⟨rfl, rfl⟩ := Prod.mk.inj same
    exact ⟨allocator, table, there, rfl, rfl⟩
  · rintro ⟨allocator, table, there, rfl, rfl⟩
    exact ⟨_, there, rfl⟩

theorem store?_eq_some_iff {handle : Handle} {resource : Resource} {next : Pool Resource} :
    pool.store? index handle resource = some next ↔
      ∃ allocator table, pool.tables[index]? = some (allocator, table) ∧
        next = pool.setTable index allocator (table.store handle resource) := by
  rw [store?, Option.map_eq_some_iff]
  constructor
  · rintro ⟨⟨allocator, table⟩, there, rfl⟩
    exact ⟨allocator, table, there, rfl⟩
  · rintro ⟨allocator, table, there, rfl⟩
    exact ⟨_, there, rfl⟩

end Pool

end ScriptHost
