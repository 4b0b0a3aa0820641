import ScriptHost.Proofs.Text.Cutting

/-! Splitting a text at a separator cuts it at the first occurrence, again and again. The pieces are
the only ones of which the separator makes the text, and in which it occurs nowhere too early. -/
namespace ScriptHost.Text

section
variable {α : Type _} [DecidableEq α]

theorem after?_eq_some_iff {start items rest : List α} :
    after? start items = some rest ↔ items = start ++ rest := by
  constructor
  · intro found
    induction start generalizing items with
    | nil => exact Option.some.inj found
    | cons first start ih =>
      cases items with
      | nil => cases found
      | cons item items =>
        rw [after?] at found
        split at found
        · rename_i same
          rw [same, ih found, List.cons_append]
        · cases found
  · rintro rfl
    exact after?_append start rest

/-- Items in front of a separator such that it begins in none of them. -/
def ReachesFirst (sep before : List α) : Prop :=
  ∀ front back, before ++ sep = front ++ sep ++ back → front = before

omit [DecidableEq α] in
theorem reachesFirst_nil (sep : List α) : ReachesFirst sep [] := by
  intro front back same
  have lengths := congrArg List.length same
  simp only [List.nil_append, List.length_append] at lengths
  exact List.length_eq_zero_iff.mp (by omega)

theorem cutAt?_sound {sep items before rest : List α}
    (found : cutAt? sep items = some (before, rest)) :
    items = before ++ sep ++ rest ∧ ReachesFirst sep before := by
  induction items generalizing before with
  | nil =>
    rw [cutAt?] at found
    split at found
    · rename_i empty
      obtain ⟨rfl, rfl⟩ := Prod.mk.inj (Option.some.inj found)
      rw [List.isEmpty_iff.mp empty]
      exact ⟨rfl, reachesFirst_nil []⟩
    · cases found
  | cons item items ih =>
    rw [cutAt?] at found
    split at found
    · rename_i behind start
      obtain ⟨rfl, rfl⟩ := Prod.mk.inj (Option.some.inj found)
      exact ⟨after?_eq_some_iff.mp start, reachesFirst_nil sep⟩
    · rename_i other
      obtain ⟨⟨inner, behind⟩, cut, joined⟩ := Option.map_eq_some_iff.mp found
      obtain ⟨rfl, rfl⟩ := Prod.mk.inj joined
      obtain ⟨rfl, first⟩ := ih cut
      refine ⟨rfl, fun front back same => ?_⟩
      cases front with
      | nil =>
        have start : after? sep (item :: (inner ++ sep ++ behind)) = some (back ++ behind) := by
          rw [after?_eq_some_iff, ← List.append_assoc sep, ← List.nil_append sep, ← same]
          simp
        rw [start] at other
        cases other
      | cons head front =>
        obtain ⟨rfl, tails⟩ : item = head ∧ inner ++ sep = front ++ sep ++ back :=
          List.cons.inj same
        exact congrArg (item :: ·) (first front back tails)

theorem cutAt?_of_reachesFirst {sep before : List α} (first : ReachesFirst sep before)
    (rest : List α) : cutAt? sep (before ++ sep ++ rest) = some (before, rest) := by
  induction before with
  | nil =>
    rw [List.nil_append]
    cases items : sep ++ rest with
    | nil =>
      obtain ⟨rfl, rfl⟩ := List.append_eq_nil_iff.mp items
      rfl
    | cons item items' => rw [cutAt?, ← items, after?_append]
  | cons item before ih =>
    have other : after? sep (item :: (before ++ sep ++ rest)) = none := by
      rw [Option.eq_none_iff_forall_ne_some]
      intro back start
      have front : sep <+: item :: before ++ sep :=
        List.prefix_of_prefix_length_le ⟨back, (after?_eq_some_iff.mp start).symm⟩
          ⟨rest, by simp⟩ (by simp; omega)
      obtain ⟨back, same⟩ := front
      cases first [] back same.symm
    have inner : ReachesFirst sep before := by
      intro front back same
      have whole := first (item :: front) back (congrArg (item :: ·) same)
      exact (List.cons.inj whole).2
    rw [List.cons_append, List.cons_append, cutAt?_cons_of_not_start other, ih inner]
    rfl

theorem occursIn_iff {sep items : List α} :
    occursIn sep items = true ↔ ∃ front back, items = front ++ sep ++ back := by
  rw [occursIn, Option.isSome_iff_exists]
  constructor
  · rintro ⟨⟨before, rest⟩, found⟩
    exact ⟨before, rest, (cutAt?_sound found).1⟩
  · rintro ⟨front, back, rfl⟩
    induction front with
    | nil => exact ⟨_, cutAt?_of_reachesFirst (reachesFirst_nil sep) back⟩
    | cons item front ih =>
      obtain ⟨cut, found⟩ := ih
      rw [List.cons_append, List.cons_append]
      cases start : after? sep (item :: (front ++ sep ++ back)) with
      | some rest => exact ⟨([], rest), by rw [cutAt?, start]⟩
      | none => exact ⟨_, by rw [cutAt?_cons_of_not_start start, found, Option.map_some]⟩

end

/-- A text stands somewhere in another. -/
def Occurs (needle text : String) : Prop := ∃ front back, text = front ++ needle ++ back

/-- The pieces of a text between occurrences of a separator, each of which is the first one behind
the occurrence before it. -/
structure IsSplit (sep text : String) (pieces : List String) : Prop where
  joined : sep.intercalate pieces = text
  first : ∀ piece ∈ pieces.dropLast, ∀ front back,
    piece ++ sep = front ++ sep ++ back → front = piece
  last : ∃ piece, pieces.getLast? = some piece ∧ ¬Occurs sep piece

theorem contains_iff {needle text : String} : contains needle text = true ↔ Occurs needle text := by
  rw [contains, occursIn_iff]
  constructor
  · rintro ⟨front, back, same⟩
    refine ⟨String.ofList front, String.ofList back, String.toList_inj.mp ?_⟩
    simpa using same
  · rintro ⟨front, back, rfl⟩
    exact ⟨front.toList, back.toList, by simp⟩

theorem split_of_not_occurs {sep text : String} (nonempty : sep ≠ "")
    (absent : ¬Occurs sep text) : split sep text = [text] := by
  have marked : sep.toList ≠ [] := by simpa using nonempty
  have missing : occursIn sep.toList text.toList = false :=
    Bool.of_not_eq_true fun found => absent (contains_iff.mp found)
  rw [split, splitOn_of_not_occursIn marked missing, List.map_singleton, String.ofList_toList]

theorem split_append {sep piece : String} (nonempty : sep ≠ "")
    (first : ∀ front back, piece ++ sep = front ++ sep ++ back → front = piece) (rest : String) :
    split sep (piece ++ sep ++ rest) = piece :: split sep rest := by
  have marked : sep.toList ≠ [] := by simpa using nonempty
  have reaches : ReachesFirst sep.toList piece.toList := by
    intro front back same
    have whole : piece ++ sep = String.ofList front ++ sep ++ String.ofList back :=
      String.toList_inj.mp (by simpa using same)
    rw [← first _ _ whole, String.toList_ofList]
  rw [split, String.toList_append, String.toList_append,
    splitOn_of_cut marked (cutAt?_of_reachesFirst reaches rest.toList), List.map_cons,
    String.ofList_toList, split]

/-- A text in which a separator occurs can be cut at the first occurrence. -/
theorem exists_first {sep text : String} (found : Occurs sep text) :
    ∃ piece rest, text = piece ++ sep ++ rest ∧
      ∀ front back, piece ++ sep = front ++ sep ++ back → front = piece := by
  obtain ⟨⟨before, rest⟩, cut⟩ := Option.isSome_iff_exists.mp (contains_iff.mpr found)
  obtain ⟨same, first⟩ := cutAt?_sound cut
  refine ⟨String.ofList before, String.ofList rest, String.toList_inj.mp (by simpa using same), ?_⟩
  intro front back joined
  have whole : before ++ sep.toList = front.toList ++ sep.toList ++ back.toList := by
    simpa using congrArg String.toList joined
  rw [← first _ _ whole, String.ofList_toList]

namespace IsSplit

variable {sep text piece rest : String} {pieces : List String}

theorem single (absent : ¬Occurs sep text) : IsSplit sep text [text] where
  joined := String.intercalate_singleton
  first := nofun
  last := ⟨text, rfl, absent⟩

theorem cons (first : ∀ front back, piece ++ sep = front ++ sep ++ back → front = piece)
    (isSplit : IsSplit sep rest pieces) : IsSplit sep (piece ++ sep ++ rest) (piece :: pieces) := by
  have some : pieces ≠ [] := by
    rintro rfl
    obtain ⟨_, member, _⟩ := isSplit.last
    cases member
  refine ⟨?_, ?_, ?_⟩
  · rw [String.intercalate_cons_of_ne_nil some, isSplit.joined]
  · rw [List.dropLast_cons_of_ne_nil some]
    exact List.forall_mem_cons.mpr ⟨first, isSplit.first⟩
  · rw [List.getLast?_cons_of_ne_nil some]
    exact isSplit.last

/-- There are no other pieces than those of splitting. -/
theorem eq_split (nonempty : sep ≠ "") (isSplit : IsSplit sep text pieces) :
    pieces = split sep text := by
  induction pieces generalizing text with
  | nil =>
    obtain ⟨_, member, _⟩ := isSplit.last
    cases member
  | cons piece more ih =>
    obtain ⟨rfl, first, last⟩ := isSplit
    cases more with
    | nil =>
      obtain ⟨_, same, absent⟩ := last
      obtain rfl : piece = _ := Option.some.inj same
      rw [String.intercalate_singleton, split_of_not_occurs nonempty absent]
    | cons next more =>
      obtain ⟨here, behind⟩ := List.forall_mem_cons.mp first
      rw [String.intercalate_cons_cons, split_append nonempty here,
        ← ih ⟨rfl, behind, last⟩]

end IsSplit

theorem isSplit_split {sep : String} (nonempty : sep ≠ "") (text : String) :
    IsSplit sep text (split sep text) := by
  induction size : text.length using Nat.strongRecOn generalizing text with
  | ind size ih =>
    by_cases found : Occurs sep text
    · obtain ⟨piece, rest, rfl, first⟩ := exists_first found
      rw [split_append nonempty first]
      refine .cons first (ih rest.length ?_ rest rfl)
      have := Nat.pos_of_ne_zero (mt String.length_eq_zero_iff.mp nonempty)
      simp only [← size, String.length_append]
      omega
    · rw [split_of_not_occurs nonempty found]
      exact .single found

/-- There are several pieces exactly if the separator occurs. -/
theorem contains_iff_two_le {sep text : String} (nonempty : sep ≠ "") :
    contains sep text = true ↔ 2 ≤ (split sep text).length := by
  rw [contains_iff]
  constructor
  · intro found
    obtain ⟨piece, rest, rfl, first⟩ := exists_first found
    have isSplit := isSplit_split nonempty rest
    rw [split_append nonempty first, List.length_cons]
    refine Nat.succ_le_succ (List.length_pos_iff.mpr ?_)
    intro none
    obtain ⟨_, last, _⟩ := isSplit.last
    rw [none] at last
    cases last
  · intro several
    by_contra absent
    rw [split_of_not_occurs nonempty absent] at several
    cases several with
    | step several => cases several

end ScriptHost.Text
