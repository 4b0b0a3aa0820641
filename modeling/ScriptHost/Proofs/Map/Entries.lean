import Mathlib.Data.List.Forall2
import Mathlib.Data.List.Sort
import ScriptHost.SortedMap

/-! The entries of a sorted map are what it answers: each key has the one entry that a look-up
finds, and an item that stands under one key has one entry. -/
namespace ScriptHost.SortedMap

universe u v

variable {Key : Type u} {Item : Type v} [Ord Key] {map : SortedMap Key Item} {key : Key}
  {item : Item}

private theorem placeEntry_perm {entries : List (Key × Item)} (item : Item)
    (missing : lookupEntry key entries = none) :
    (placeEntry key item entries).Perm ((key, item) :: entries) := by
  induction entries with
  | nil => exact .refl _
  | cons head rest ih =>
    rw [lookupEntry] at missing
    rw [placeEntry]
    split
    · exact .refl _
    · rename_i same
      simp [same] at missing
    · rename_i after
      simp only [after] at missing
      exact ((ih missing).cons head).trans (.swap ..)

/-- A new key brings one new entry. -/
theorem entries_insert_perm [Std.TransOrd Key] (item : Item) (missing : map.find? key = none) :
    (map.insert key item).entries.Perm ((key, item) :: map.entries) :=
  placeEntry_perm item missing

variable [Std.LawfulEqOrd Key]

theorem ne_of_compare_lt {first second : Key} (less : compare first second = .lt) :
    first ≠ second := by
  rintro rfl
  rw [Std.LawfulEqOrd.compare_eq_iff_eq.mpr rfl] at less
  cases less

private theorem mem_iff_lookupEntry {entries : List (Key × Item)}
    (ascending : entries.Pairwise fun first second => compare first.1 second.1 = .lt) :
    (key, item) ∈ entries ↔ lookupEntry key entries = some item := by
  induction entries with
  | nil => simp [lookupEntry]
  | cons head rest ih =>
    obtain ⟨below, tail⟩ := List.pairwise_cons.mp ascending
    rw [List.mem_cons, lookupEntry]
    split
    · rename_i same
      obtain rfl := Std.LawfulEqOrd.compare_eq_iff_eq.mp same
      have absent : (head.1, item) ∉ rest := fun member => ne_of_compare_lt (below _ member) rfl
      simp only [absent, or_false, Option.some.injEq]
      exact ⟨fun here => (congrArg Prod.snd here).symm, fun here => here ▸ rfl⟩
    · rename_i different
      have elsewhere : (key, item) ≠ head := by
        rintro rfl
        exact different (Std.LawfulEqOrd.compare_eq_iff_eq.mpr rfl)
      simp only [elsewhere, false_or]
      exact ih tail

private theorem dropEntry_perm {entries : List (Key × Item)}
    (ascending : entries.Pairwise fun first second => compare first.1 second.1 = .lt)
    (found : lookupEntry key entries = some item) :
    entries.Perm ((key, item) :: dropEntry key entries) := by
  induction entries with
  | nil => cases found
  | cons head rest ih =>
    obtain ⟨below, tail⟩ := List.pairwise_cons.mp ascending
    rw [lookupEntry] at found
    split at found
    · rename_i same
      obtain rfl := Std.LawfulEqOrd.compare_eq_iff_eq.mp same
      obtain rfl := Option.some.inj found
      have kept : ∀ entry ∈ rest, (compare head.1 entry.1 != .eq) = true := by
        intro entry member
        rw [below entry member]
        rfl
      rw [dropEntry, List.filter_cons_of_neg (by simp), List.filter_eq_self.mpr kept]
    · rename_i different
      have kept : (compare key head.1 != .eq) = true := bne_iff_ne.mpr different
      rw [dropEntry, List.filter_cons, if_pos kept]
      exact ((ih tail found).cons head).trans (.swap ..)

/-- A key that is forgotten takes its one entry with it. -/
theorem entries_erase_perm (found : map.find? key = some item) :
    map.entries.Perm ((key, item) :: (map.erase key).entries) :=
  dropEntry_perm map.ascending found

theorem mem_entries_iff : (key, item) ∈ map.entries ↔ map.find? key = some item :=
  mem_iff_lookupEntry map.ascending

theorem find?_insert [Std.TransOrd Key] [DecidableEq Key] (map : SortedMap Key Item)
    (key other : Key) (item : Item) :
    (map.insert key item).find? other = if other = key then some item else map.find? other := by
  split
  · rename_i same
    rw [same, find?_insert_self]
  · rename_i different
    exact find?_insert_of_ne map item fun same =>
      different (Std.LawfulEqOrd.compare_eq_iff_eq.mp same)

private theorem mem_insertAll [Std.TransOrd Key] [DecidableEq Key] {pairs : List (Key × Item)}
    (found : (pairs.foldl (fun map pair => map.insert pair.1 pair.2) map).find? key = some item) :
    map.find? key = some item ∨ (key, item) ∈ pairs := by
  induction pairs generalizing map with
  | nil => exact .inl found
  | cons pair rest ih =>
    rcases ih found with earlier | later
    · rw [find?_insert] at earlier
      split at earlier
      · rename_i same
        rw [same, ← Option.some.inj earlier]
        exact .inr List.mem_cons_self
      · exact .inl earlier
    · exact .inr (List.mem_cons_of_mem _ later)

/-- A map of pairs holds nothing else. -/
theorem mem_of_mem_ofList [Std.TransOrd Key] [DecidableEq Key] {pairs : List (Key × Item)}
    (member : (key, item) ∈ (ofList pairs).entries) : (key, item) ∈ pairs := by
  rcases mem_insertAll (mem_entries_iff.mp member) with earlier | listed
  · rw [find?_empty] at earlier
    cases earlier
  · exact listed

theorem mem_keys_iff : key ∈ map.keys ↔ (map.find? key).isSome := by
  rw [keys, List.mem_map, Option.isSome_iff_exists]
  constructor
  · rintro ⟨⟨key, item⟩, member, rfl⟩
    exact ⟨item, mem_entries_iff.mp member⟩
  · rintro ⟨item, found⟩
    exact ⟨(key, item), mem_entries_iff.mpr found, rfl⟩

/-- The keys of a map say which order they stand in. -/
theorem keys_eq_of_mem_iff [Std.TransOrd Key] {Item' : Type*} {other : SortedMap Key Item'}
    (same : ∀ key, key ∈ map.keys ↔ key ∈ other.keys) : map.keys = other.keys := by
  have irrefl : Std.Irrefl fun first second : Key => compare first second = .lt :=
    ⟨fun _ less => ne_of_compare_lt less rfl⟩
  have antisymm : Std.Antisymm fun first second : Key => compare first second = .lt :=
    ⟨fun _ _ less more => absurd (Std.TransCmp.lt_trans less more) (irrefl.irrefl _)⟩
  refine List.Pairwise.eq_of_mem_iff
    (r := fun first second => compare first second = .lt) ?_ ?_ same
  · exact List.pairwise_map.mpr map.ascending
  · exact List.pairwise_map.mpr other.ascending

omit [Ord Key] [Std.LawfulEqOrd Key] in
private theorem forall₂_of_keys_eq {Item' : Type*} {related : Item → Item' → Prop}
    {entries : List (Key × Item)} {others : List (Key × Item')}
    (keys : entries.map (·.1) = others.map (·.1))
    (items : ∀ key item item', (key, item) ∈ entries → (key, item') ∈ others → related item item') :
    List.Forall₂ (fun entry other => entry.1 = other.1 ∧ related entry.2 other.2)
      entries others := by
  induction entries generalizing others with
  | nil =>
    obtain rfl := List.map_eq_nil_iff.mp keys.symm
    exact .nil
  | cons entry rest ih =>
    cases others with
    | nil => cases keys
    | cons other more =>
      obtain ⟨here, behind⟩ : entry.1 = other.1 ∧ _ := List.cons.inj keys
      refine .cons ⟨here, ?_⟩ (ih behind fun key item item' member member' => ?_)
      · exact items entry.1 entry.2 other.2 List.mem_cons_self (here ▸ List.mem_cons_self)
      · exact items key item item' (List.mem_cons_of_mem _ member) (List.mem_cons_of_mem _ member')

/-- Two maps have related entries one by one if they have the same keys with related items. -/
theorem forall₂_entries_iff [Std.TransOrd Key] {Item' : Type*} {related : Item → Item' → Prop}
    {other : SortedMap Key Item'} :
    List.Forall₂ (fun entry entry' => entry.1 = entry'.1 ∧ related entry.2 entry'.2)
        map.entries other.entries ↔
      ∀ key, Option.Rel related (map.find? key) (other.find? key) := by
  constructor
  · intro alike key
    rw [find?, find?]
    generalize map.entries = entries, other.entries = others at alike
    induction alike with
    | nil => exact .none
    | @cons entry entry' _ _ here _ ih =>
      rw [lookupEntry, lookupEntry, here.1]
      split
      · exact .some here.2
      · exact ih
  · intro alike
    refine forall₂_of_keys_eq (keys_eq_of_mem_iff fun key => ?_) ?_
    · rw [mem_keys_iff, mem_keys_iff]
      have both := alike key
      generalize map.find? key = held, other.find? key = held' at both ⊢
      cases both <;> simp
    · intro key item item' member member'
      have both := alike key
      rw [mem_entries_iff.mp member, mem_entries_iff.mp member'] at both
      exact Option.rel_some_some.mp both

/-- Maps that answer alike are the same. -/
theorem eq_of_find?_eq [Std.TransOrd Key] {other : SortedMap Key Item}
    (alike : ∀ key, map.find? key = other.find? key) : map = other := by
  have related : ∀ key, Option.Rel Eq (map.find? key) (other.find? key) := by
    intro key
    rw [alike key]
    cases other.find? key with
    | none => exact .none
    | some item => exact .some rfl
  have entries := forall₂_entries_iff.mpr related
  simp only [← Prod.ext_iff, List.forall₂_eq_eq_eq] at entries
  cases map
  cases other
  cases entries
  rfl

/-- The keys under which an item stands. -/
def keysOf [DecidableEq Item] (map : SortedMap Key Item) (item : Item) : List Key :=
  (map.entries.filter fun entry => entry.2 = item).map (·.1)

variable [DecidableEq Item]

theorem mem_keysOf_iff : key ∈ map.keysOf item ↔ map.find? key = some item := by
  rw [← mem_entries_iff, keysOf, List.mem_map]
  constructor
  · rintro ⟨entry, member, rfl⟩
    obtain ⟨held, same⟩ := List.mem_filter.mp member
    exact of_decide_eq_true same ▸ held
  · intro member
    exact ⟨(key, item), List.mem_filter.mpr ⟨member, decide_eq_true rfl⟩, rfl⟩

theorem nodup_keysOf (map : SortedMap Key Item) (item : Item) : (map.keysOf item).Nodup := by
  rw [keysOf, List.Nodup, List.pairwise_map]
  exact (map.ascending.filter _).imp ne_of_compare_lt

/-- An item that stands under one key and no other has one entry. -/
theorem keysOf_eq_singleton (only : ∀ other, map.find? other = some item ↔ other = key) :
    map.keysOf item = [key] := by
  refine List.perm_singleton.mp ?_
  have single : [key].Nodup := List.pairwise_singleton ..
  refine (List.perm_ext_iff_of_nodup (nodup_keysOf map item) single).mpr ?_
  intro other
  rw [mem_keysOf_iff, only, List.mem_singleton]

theorem keysOf_eq_nil (nowhere : ∀ key, map.find? key ≠ some item) : map.keysOf item = [] := by
  refine List.eq_nil_iff_forall_not_mem.mpr ?_
  intro key member
  exact nowhere key (mem_keysOf_iff.mp member)

end ScriptHost.SortedMap
