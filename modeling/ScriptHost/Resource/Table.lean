import ScriptHost.Error.Host
import ScriptHost.SortedMap

/-!
Tables of live resources. Several tables may draw their handles from one allocator, so that a
handle is live in at most one of them.
-/
namespace ScriptHost

/-- Issues handles; it remembers only how many. -/
structure Allocator where
  issued : Nat := 0
  deriving DecidableEq, Repr, Inhabited

namespace Allocator

/-- The next handle. -/
def next (ids : Allocator) : Handle := Handle.afterIssuing ids.issued

/-- The allocator once the next handle is issued. -/
def advance (ids : Allocator) : Allocator := ⟨ids.issued + 1⟩

end Allocator

/-- Live resources of one kind under their handles. -/
structure Table (Resource : Type u) where
  kind : ResourceKind
  entries : SortedMap Nat Resource := SortedMap.empty

namespace Table

variable {Resource : Type u}

def notFound (table : Table Resource) (handle : Handle) : HostError :=
  .notFound table.kind handle.id

def closed (table : Table Resource) (handle : Handle) : HostError :=
  .closed table.kind handle.id

/-- Keep a resource under a handle. -/
def store (table : Table Resource) (handle : Handle) (resource : Resource) : Table Resource :=
  { table with entries := table.entries.insert handle.id resource }

/-- The resource of a handle. -/
def get? (table : Table Resource) (handle : Handle) : Option Resource :=
  table.entries.find? handle.id

/-- The resource of a handle, or the failure that there is none. -/
def get (table : Table Resource) (handle : Handle) : Except HostError Resource :=
  match table.get? handle with
  | some resource => .ok resource
  | none => .error (table.notFound handle)

/-- Whether a handle is live in this table. -/
def contains (table : Table Resource) (handle : Handle) : Bool := (table.get? handle).isSome

/-- The table without a handle. -/
def drop (table : Table Resource) (handle : Handle) : Table Resource :=
  { table with entries := table.entries.erase handle.id }

/-- Take the resource of a handle out, if it is there. -/
def take? (table : Table Resource) (handle : Handle) : Option (Resource × Table Resource) :=
  (table.get? handle).map fun resource => (resource, table.drop handle)

/-- The number of live resources. -/
def size (table : Table Resource) : Nat := table.entries.size

theorem get?_store (table : Table Resource) (handle : Handle) (resource : Resource) :
    (table.store handle resource).get? handle = some resource := by
  simp [store, get?]

end Table

end ScriptHost
