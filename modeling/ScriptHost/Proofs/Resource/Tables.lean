import ScriptHost.Proofs.Map.Entries
import ScriptHost.Resource.Table

/-! What a table answers after each of its operations. An operation on one handle leaves every other
handle alone. -/
namespace ScriptHost

namespace SortedMap

variable {Key : Type u} {Item : Type v} [Ord Key]

private theorem lookupEntry_dropEntry_self (key : Key) (entries : List (Key × Item)) :
    lookupEntry key (dropEntry key entries) = none := by
  induction entries with
  | nil => rfl
  | cons head rest ih =>
    by_cases same : compare key head.1 = .eq
    · simpa [dropEntry, same] using ih
    · have kept : dropEntry key (head :: rest) = head :: dropEntry key rest := by
        simp [dropEntry, same]
      rw [kept, lookupEntry]
      split
      · rename_i equal
        exact absurd equal same
      · exact ih

@[simp] theorem find?_erase_self (map : SortedMap Key Item) (key : Key) :
    (map.erase key).find? key = none := lookupEntry_dropEntry_self key map.entries

private theorem lookupEntry_dropEntry_of_ne [Std.TransOrd Key] {key other : Key}
    (different : compare other key ≠ .eq) (entries : List (Key × Item)) :
    lookupEntry other (dropEntry key entries) = lookupEntry other entries := by
  induction entries with
  | nil => rfl
  | cons head rest ih =>
    by_cases dropped : compare key head.1 = .eq
    · have skipped : compare other head.1 ≠ .eq := fun same =>
        different (Std.TransCmp.eq_trans same (Std.OrientedCmp.eq_symm dropped))
      have gone : dropEntry key (head :: rest) = dropEntry key rest := by
        simp [dropEntry, dropped]
      rw [gone, ih, lookupEntry]
      split
      · rename_i equal
        exact absurd equal skipped
      · rfl
    · have kept : dropEntry key (head :: rest) = head :: dropEntry key rest := by
        simp [dropEntry, dropped]
      rw [kept, lookupEntry, lookupEntry, ih]

theorem find?_erase_of_ne [Std.TransOrd Key] (map : SortedMap Key Item) {key other : Key}
    (different : compare other key ≠ .eq) : (map.erase key).find? other = map.find? other :=
  lookupEntry_dropEntry_of_ne different map.entries

end SortedMap

theorem Handle.ext_id {first second : Handle} (same : first.id = second.id) : first = second := by
  cases first
  cases second
  cases same
  rfl

namespace Table

variable {Resource : Type u} {table : Table Resource} {handle other : Handle}

private theorem compare_ne (different : other ≠ handle) : compare other.id handle.id ≠ .eq := by
  intro same
  exact different (Handle.ext_id (Std.LawfulEqOrd.compare_eq_iff_eq.mp same))

theorem get?_store_of_ne (different : other ≠ handle) (resource : Resource) :
    (table.store handle resource).get? other = table.get? other :=
  SortedMap.find?_insert_of_ne table.entries resource (compare_ne different)

@[simp] theorem get?_drop (table : Table Resource) (handle : Handle) :
    (table.drop handle).get? handle = none := SortedMap.find?_erase_self table.entries handle.id

theorem get?_drop_of_ne (different : other ≠ handle) :
    (table.drop handle).get? other = table.get? other :=
  SortedMap.find?_erase_of_ne table.entries (compare_ne different)

theorem get?_drop_eq_none (missing : table.get? other = none) :
    (table.drop handle).get? other = none := by
  by_cases same : other = handle
  · subst same
    exact get?_drop table other
  · rw [get?_drop_of_ne same, missing]

theorem size_store (missing : table.get? handle = none) (resource : Resource) :
    (table.store handle resource).size = table.size + 1 :=
  (SortedMap.entries_insert_perm resource missing).length_eq

theorem size_drop {resource : Resource} (held : table.get? handle = some resource) :
    (table.drop handle).size + 1 = table.size :=
  (SortedMap.entries_erase_perm held).length_eq.symm

theorem contains_iff :
    table.contains handle = true ↔ ∃ resource, table.get? handle = some resource :=
  Option.isSome_iff_exists

theorem take?_eq_some_iff {resource : Resource} {rest : Table Resource} :
    table.take? handle = some (resource, rest) ↔
      table.get? handle = some resource ∧ rest = table.drop handle := by
  rw [take?, Option.map_eq_some_iff]
  constructor
  · intro taken
    obtain ⟨found, present, same⟩ := taken
    obtain ⟨rfl, rfl⟩ := Prod.mk.inj same
    exact ⟨present, rfl⟩
  · intro taken
    obtain ⟨present, rfl⟩ := taken
    exact ⟨resource, present, rfl⟩

theorem take?_eq_none_iff : table.take? handle = none ↔ table.get? handle = none := by
  rw [take?, Option.map_eq_none_iff]

theorem get_eq_ok_iff {resource : Resource} :
    table.get handle = .ok resource ↔ table.get? handle = some resource := by
  rw [get]
  cases table.get? handle <;> simp

theorem get_of_get?_eq_none (missing : table.get? handle = none) :
    table.get handle = .error (table.notFound handle) := by
  rw [get, missing]

end Table

/-- While the counter has not run out, the next handle is one above all that were issued. -/
theorem Handle.id_afterIssuing (room : earlier < UInt64.size - 1) :
    (afterIssuing earlier).id = earlier + 1 := congrArg (· + 1) (Nat.mod_eq_of_lt room)

theorem Allocator.id_next {ids : Allocator} (room : ids.issued < UInt64.size - 1) :
    ids.next.id = ids.issued + 1 := Handle.id_afterIssuing room

end ScriptHost
