import ScriptHost.Json.Fields

/-! How deep documents nest. -/
namespace ScriptHost.Json

mutual

/-- How many containers stand in one another at the deepest place of a document. -/
def depth : Json → Nat
  | .array items => depths items + 1
  | .object fields => fieldDepths fields + 1
  | _ => 0

def depths : List Json → Nat
  | [] => 0
  | item :: rest => max (depth item) (depths rest)

def fieldDepths : List (Option String × Json) → Nat
  | [] => 0
  | field :: rest => max (fieldDepth field) (fieldDepths rest)

def fieldDepth : Option String × Json → Nat
  | (_, item) => depth item

end

theorem depth_le_depths {item : Json} {items : List Json} (member : item ∈ items) :
    item.depth ≤ depths items := by
  induction member with
  | head => exact Nat.le_max_left _ _
  | tail _ _ ih => exact Nat.le_trans ih (Nat.le_max_right _ _)

theorem depth_le_fieldDepths {key : Option String} {item : Json}
    {fields : List (Option String × Json)} (member : (key, item) ∈ fields) :
    item.depth ≤ fieldDepths fields := by
  induction member with
  | head => exact Nat.le_max_left _ _
  | tail _ _ ih => exact Nat.le_trans ih (Nat.le_max_right _ _)

/-- A field that is found by its name is one of the fields. -/
theorem depth_le_of_fieldOnce? {name : String} {fields : List (Option String × Json)} {item : Json}
    (found : fieldOnce? name fields = some (some item)) : item.depth ≤ fieldDepths fields := by
  rw [fieldOnce?] at found
  split at found
  · cases found
  · rename_i field single
    cases found
    have member : field ∈ fields.filter (·.1 == some name) := single ▸ List.mem_singleton_self field
    exact depth_le_fieldDepths (List.mem_filter.mp member).1
  · cases found

theorem depth_le_of_field? {name : String} {fields : List (Option String × Json)} {item : Json}
    (found : field? name fields = some item) : item.depth ≤ fieldDepths fields := by
  rw [field?, Option.join_eq_some_iff] at found
  exact depth_le_of_fieldOnce? found

/-! Lists of documents that are written and read item by item. -/

section
variable {α : Type} {read : Json → Option α} {write : α → Json}

theorem mapM_map_write {values : List α} (back : ∀ value ∈ values, read (write value) = some value) :
    (values.map write).mapM read = some values := by
  induction values with
  | nil => rfl
  | cons value values ih =>
    obtain ⟨first, more⟩ := List.forall_mem_cons.mp back
    rw [List.map_cons, List.mapM_cons, first, ih more]
    rfl

/-- What is written of the items that were read is bounded by them. -/
theorem depths_le_of_mapM {room : Nat} {items : List Json} {values : List α}
    (each : ∀ item value, read item = some value →
      (write value).depth ≤ room ∧ (write value).depth ≤ item.depth)
    (found : items.mapM read = some values) :
    depths (values.map write) ≤ room ∧ depths (values.map write) ≤ depths items := by
  induction items generalizing values with
  | nil =>
    obtain rfl : [] = values := Option.some.inj found
    exact ⟨Nat.zero_le _, Nat.le_refl _⟩
  | cons item items ih =>
    simp only [List.mapM_cons, Option.bind_eq_bind, Option.bind_eq_some_iff] at found
    obtain ⟨value, first, more, behind, same⟩ := found
    obtain rfl : value :: more = values := Option.some.inj same
    have head := each item value first
    have tail := ih behind
    exact ⟨Nat.max_le.mpr ⟨head.1, tail.1⟩,
      Nat.max_le.mpr ⟨Nat.le_trans head.2 (Nat.le_max_left _ _),
        Nat.le_trans tail.2 (Nat.le_max_right _ _)⟩⟩

end

end ScriptHost.Json
