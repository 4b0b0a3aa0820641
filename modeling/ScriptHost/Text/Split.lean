/-!
Cutting text at a separator. The search goes left to right and continues behind each match.
-/
namespace ScriptHost.Text

/-- What follows a given start of a sequence, if it starts so. -/
def after? [DecidableEq α] : (start items : List α) → Option (List α)
  | [], items => some items
  | _ :: _, [] => none
  | first :: start, item :: items => if first = item then after? start items else none

theorem length_of_after? [DecidableEq α] {start items rest : List α}
    (found : after? start items = some rest) : rest.length + start.length = items.length := by
  induction start generalizing items with
  | nil => simp only [after?, Option.some.injEq] at found; simp [found]
  | cons first start ih =>
    cases items with
    | nil => simp [after?] at found
    | cons item items =>
      rw [after?] at found
      split at found
      · have := ih found; simp only [List.length_cons]; omega
      · contradiction

/-- Cut at the first occurrence of a sequence: what precedes it and what follows it. -/
def cutAt? [DecidableEq α] (sep : List α) : List α → Option (List α × List α)
  | [] => if sep.isEmpty then some ([], []) else none
  | item :: items =>
    match after? sep (item :: items) with
    | some rest => some ([], rest)
    | none => (cutAt? sep items).map fun cut => (item :: cut.1, cut.2)

theorem length_of_cutAt? [DecidableEq α] {sep items before rest : List α}
    (found : cutAt? sep items = some (before, rest)) :
    rest.length + sep.length + before.length = items.length := by
  induction items generalizing before with
  | nil =>
    rw [cutAt?] at found
    split at found
    · rename_i absent
      simp only [Option.some.injEq, Prod.mk.injEq] at found
      simp [← found.1, ← found.2, List.isEmpty_iff.mp absent]
    · contradiction
  | cons item items ih =>
    rw [cutAt?] at found
    split at found
    · rename_i tail start
      simp only [Option.some.injEq, Prod.mk.injEq] at found
      have := length_of_after? start
      simp only [← found.1, ← found.2, List.length_nil]; omega
    · simp only [Option.map_eq_some_iff, Prod.mk.injEq, Prod.exists] at found
      obtain ⟨front, back, cut, rfl, rfl⟩ := found
      have := ih cut
      simp only [List.length_cons]; omega

/-- The pieces between the occurrences of a separator. An empty separator cuts nothing. -/
def splitOn [DecidableEq α] (sep items : List α) : List (List α) :=
  if _ : sep = [] then [items]
  else match _ : cutAt? sep items with
    | some (before, rest) => before :: splitOn sep rest
    | none => [items]
  termination_by items.length
  decreasing_by
    have := length_of_cutAt? ‹_›
    have : 0 < sep.length := List.length_pos_iff.mpr ‹_›
    omega

/-- Whether a sequence occurs in another; the empty one always does. -/
def occursIn [DecidableEq α] (sep items : List α) : Bool := (cutAt? sep items).isSome

/-- Split a text at every occurrence of a separator. -/
def split (sep text : String) : List String :=
  (splitOn sep.toList text.toList).map String.ofList

/-- Whether a text contains another. -/
def contains (needle text : String) : Bool := occursIn needle.toList text.toList

end ScriptHost.Text
