import ScriptHost.Resource.Table

/-!
Several tables over several allocators, and what can be asked of them as data. A run of requests
gives one answer each.
-/
namespace ScriptHost

/-- Tables, each with the index of the allocator that it draws from. -/
structure Pool (Resource : Type) where
  allocators : Array Allocator
  tables : Array (Nat × Table Resource)

/-- What can be asked of one table. -/
inductive TableRequest (Resource : Type) where
  | insert (resource : Resource)
  | get (handle : Handle)
  | remove (handle : Handle)
  | take (handle : Handle)
  | contains (handle : Handle)
  | kind
  deriving Repr

/-- What a table answers. -/
inductive TableAnswer (Resource : Type) where
  | issued (handle : Handle)
  | found (resource : Resource)
  | taken (resource : Option Resource)
  | held (isHeld : Bool)
  | kind (kind : ResourceKind)
  | failed (error : HostError)
  deriving Repr

namespace Pool

variable {Resource : Type}

/-- Put one table in the place of another. -/
def setTable (pool : Pool Resource) (index allocator : Nat) (table : Table Resource) :
    Pool Resource :=
  { pool with tables := pool.tables.setIfInBounds index (allocator, table) }

/-- Answer one request at the table of the given index; there is none beyond the last. -/
def answer? (pool : Pool Resource) (index : Nat) (request : TableRequest Resource) :
    Option (TableAnswer Resource × Pool Resource) :=
  pool.tables[index]?.map fun (allocator, table) =>
    match request with
    | .insert resource =>
      let ids := pool.allocators.getD allocator {}
      let stored := pool.setTable index allocator (table.store ids.next resource)
      (.issued ids.next,
        { stored with allocators := pool.allocators.setIfInBounds allocator ids.advance })
    | .get handle =>
      match table.get handle with
      | .ok resource => (.found resource, pool)
      | .error error => (.failed error, pool)
    | .remove handle =>
      match table.take? handle with
      | some (resource, rest) => (.found resource, pool.setTable index allocator rest)
      | none => (.failed (table.notFound handle), pool)
    | .take handle =>
      match table.take? handle with
      | some (resource, rest) => (.taken (some resource), pool.setTable index allocator rest)
      | none => (.taken none, pool)
    | .contains handle => (.held (table.contains handle), pool)
    | .kind => (.kind table.kind, pool)

/-- The number of live resources of each table. -/
def sizes (pool : Pool Resource) : List Nat := pool.tables.toList.map (·.2.size)

end Pool

end ScriptHost
