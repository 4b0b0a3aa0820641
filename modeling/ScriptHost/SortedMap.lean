/-!
Finite maps kept as entries in strictly ascending key order. The order is part of the type, so
listing the keys is listing the entries and two maps that answer alike are equal.
-/
namespace ScriptHost

universe u v

/-- A finite map whose entries stand in strictly ascending key order. -/
structure SortedMap (Key : Type u) (Item : Type v) [Ord Key] where
  entries : List (Key × Item)
  ascending : entries.Pairwise fun first second => compare first.1 second.1 = .lt

namespace SortedMap

variable {Key : Type u} {Item : Type v} [Ord Key]

instance : Inhabited (SortedMap Key Item) := ⟨⟨[], .nil⟩⟩

/-- The map without entries. -/
def empty : SortedMap Key Item := ⟨[], .nil⟩

/-- The item of the first entry with the key. -/
def lookupEntry (key : Key) : List (Key × Item) → Option Item
  | [] => none
  | (head, item) :: rest =>
    match compare key head with
    | .eq => some item
    | _ => lookupEntry key rest

/-- Put an entry at its place in ascending order, over an entry with the same key. -/
def placeEntry (key : Key) (item : Item) : List (Key × Item) → List (Key × Item)
  | [] => [(key, item)]
  | (head, held) :: rest =>
    match compare key head with
    | .lt => (key, item) :: (head, held) :: rest
    | .eq => (key, item) :: rest
    | .gt => (head, held) :: placeEntry key item rest

/-- The entries with another key. -/
def dropEntry (key : Key) (entries : List (Key × Item)) : List (Key × Item) :=
  entries.filter fun entry => compare key entry.1 != .eq

/-- What the map holds under a key. -/
def find? (map : SortedMap Key Item) (key : Key) : Option Item := lookupEntry key map.entries

/-- Whether the map holds anything under a key. -/
def contains (map : SortedMap Key Item) (key : Key) : Bool := (map.find? key).isSome

/-- The keys, each once and in ascending order. -/
def keys (map : SortedMap Key Item) : List Key := map.entries.map (·.1)

/-- The items in the order of their keys. -/
def items (map : SortedMap Key Item) : List Item := map.entries.map (·.2)

/-- The number of keys. -/
def size (map : SortedMap Key Item) : Nat := map.entries.length

/-- Whether the map has no key. -/
def isEmpty (map : SortedMap Key Item) : Bool := map.entries.isEmpty

/-- Forget a key. -/
def erase (map : SortedMap Key Item) (key : Key) : SortedMap Key Item :=
  ⟨dropEntry key map.entries, map.ascending.filter _⟩

private theorem mem_placeEntry {key : Key} {item : Item} {entries : List (Key × Item)}
    {entry : Key × Item} (member : entry ∈ placeEntry key item entries) :
    entry = (key, item) ∨ entry ∈ entries := by
  induction entries with
  | nil => simpa [placeEntry] using member
  | cons head rest ih =>
    rw [placeEntry] at member
    split at member
    · simpa using member
    · rcases List.mem_cons.mp member with here | there
      · exact Or.inl here
      · exact Or.inr (List.mem_cons_of_mem _ there)
    · rcases List.mem_cons.mp member with here | there
      · exact Or.inr (here ▸ List.mem_cons_self)
      · exact (ih there).imp_right (List.mem_cons_of_mem _)

@[simp] theorem find?_empty (key : Key) : (empty : SortedMap Key Item).find? key = none := rfl

variable [Std.TransOrd Key]

private theorem ascending_placeEntry (key : Key) (item : Item) {entries : List (Key × Item)}
    (ascending : entries.Pairwise fun first second => compare first.1 second.1 = .lt) :
    (placeEntry key item entries).Pairwise fun first second =>
      compare first.1 second.1 = .lt := by
  induction entries with
  | nil => simp [placeEntry]
  | cons head rest ih =>
    obtain ⟨below, tail⟩ := List.pairwise_cons.mp ascending
    rw [placeEntry]
    split
    · rename_i before
      refine List.pairwise_cons.mpr ⟨fun entry member => ?_, ascending⟩
      rcases List.mem_cons.mp member with here | there
      · subst here; exact before
      · exact Std.TransCmp.lt_trans before (below entry there)
    · rename_i same
      exact List.pairwise_cons.mpr ⟨fun entry member =>
        Std.TransCmp.lt_of_eq_of_lt same (below entry member), tail⟩
    · rename_i after
      refine List.pairwise_cons.mpr ⟨fun entry member => ?_, ih tail⟩
      rcases mem_placeEntry member with here | there
      · subst here; exact Std.OrientedCmp.gt_iff_lt.mp after
      · exact below entry there

/-- Hold an item under a key, in place of what was there. -/
def insert (map : SortedMap Key Item) (key : Key) (item : Item) : SortedMap Key Item :=
  ⟨placeEntry key item map.entries, ascending_placeEntry key item map.ascending⟩

/-- The map of a list of pairs; of two pairs with one key the later one counts. -/
def ofList (pairs : List (Key × Item)) : SortedMap Key Item :=
  pairs.foldl (fun map pair => map.insert pair.1 pair.2) empty

private theorem lookupEntry_placeEntry_self (key : Key) (item : Item)
    (entries : List (Key × Item)) : lookupEntry key (placeEntry key item entries) = some item := by
  induction entries with
  | nil => simp [placeEntry, lookupEntry]
  | cons head rest ih =>
    rw [placeEntry]
    split
    · simp [lookupEntry]
    · simp [lookupEntry]
    · rename_i after
      simp [lookupEntry, after, ih]

private theorem lookupEntry_placeEntry_of_ne {key other : Key} (item : Item)
    (different : compare other key ≠ .eq) (entries : List (Key × Item)) :
    lookupEntry other (placeEntry key item entries) = lookupEntry other entries := by
  have skip : ∀ rest, lookupEntry other ((key, item) :: rest) = lookupEntry other rest := by
    intro rest
    rw [lookupEntry]
    split
    · rename_i same; exact absurd same different
    · rfl
  induction entries with
  | nil => rw [placeEntry, skip]
  | cons head rest ih =>
    rw [placeEntry]
    split
    · exact skip _
    · rename_i same
      rw [skip, lookupEntry]
      split
      · rename_i equal
        exact absurd (Std.TransCmp.eq_trans equal (Std.OrientedCmp.eq_symm same)) different
      · rfl
    · simp only [lookupEntry, ih]

@[simp] theorem find?_insert_self (map : SortedMap Key Item) (key : Key) (item : Item) :
    (map.insert key item).find? key = some item :=
  lookupEntry_placeEntry_self key item map.entries

theorem find?_insert_of_ne (map : SortedMap Key Item) {key other : Key} (item : Item)
    (different : compare other key ≠ .eq) :
    (map.insert key item).find? other = map.find? other :=
  lookupEntry_placeEntry_of_ne item different map.entries

end SortedMap

end ScriptHost
