import Mathlib.Data.List.DropRight
import Mathlib.Data.List.TakeWhile
import ScriptHost.Text.Blank
import ScriptHost.Text.Split

/-! What cutting at a character and trimming leave of a text. -/
namespace ScriptHost.Text

section
variable {α : Type _} [DecidableEq α]

theorem cutAt?_singleton_eq_some_iff {mark : α} {items front back : List α} :
    cutAt? [mark] items = some (front, back) ↔ items = front ++ mark :: back ∧ mark ∉ front := by
  induction items generalizing front with
  | nil => simp [cutAt?]
  | cons item items ih =>
    by_cases same : mark = item
    · subst same
      simp only [cutAt?, after?, ↓reduceIte, Option.some.injEq, Prod.mk.injEq]
      constructor
      · intro cut
        obtain ⟨rfl, rfl⟩ := cut
        simp
      · intro cut
        obtain ⟨split, absent⟩ := cut
        cases front with
        | nil => simpa using split
        | cons first front => simp_all
    · have step : cutAt? [mark] (item :: items) =
          (cutAt? [mark] items).map fun cut => (item :: cut.1, cut.2) := by
        simp [cutAt?, after?, same]
      rw [step, Option.map_eq_some_iff]
      constructor
      · intro cut
        obtain ⟨⟨inner, rest⟩, found, joined⟩ := cut
        obtain ⟨rfl, rfl⟩ := Prod.mk.inj joined
        obtain ⟨rfl, absent⟩ := ih.mp found
        exact ⟨rfl, by simp [same, absent]⟩
      · intro cut
        obtain ⟨split, absent⟩ := cut
        cases front with
        | nil => exact absurd (List.cons.inj split).1.symm same
        | cons first front =>
          obtain ⟨rfl, rfl⟩ := List.cons.inj split
          have inside : mark ∉ front := fun member => absent (List.mem_cons_of_mem _ member)
          exact ⟨(front, back), ih.mpr ⟨rfl, inside⟩, rfl⟩

theorem after?_append (start rest : List α) : after? start (start ++ rest) = some rest := by
  induction start with
  | nil => rfl
  | cons first start ih => rw [List.cons_append, after?, if_pos rfl, ih]

theorem cutAt?_cons_of_not_start {sep items : List α} {item : α}
    (other : after? sep (item :: items) = none) :
    cutAt? sep (item :: items) = (cutAt? sep items).map fun cut => (item :: cut.1, cut.2) := by
  rw [cutAt?, other]

/-- A separator begins no earlier than its first item stands. -/
theorem cutAt?_append_of_not_mem {first : α} {sep front : List α} (absent : first ∉ front)
    (items : List α) :
    cutAt? (first :: sep) (front ++ items) =
      (cutAt? (first :: sep) items).map fun cut => (front ++ cut.1, cut.2) := by
  induction front with
  | nil => simp
  | cons item front ih =>
    obtain ⟨different, behind⟩ := not_or.mp (mt List.mem_cons.mpr absent)
    rw [List.cons_append, cutAt?_cons_of_not_start (by rw [after?, if_neg different]), ih behind,
      Option.map_map]
    rfl

theorem cutAt?_append_sep {first : α} {sep front : List α} (absent : first ∉ front)
    (rest : List α) :
    cutAt? (first :: sep) (front ++ (first :: sep) ++ rest) = some (front, rest) := by
  have found : after? (first :: sep) (first :: (sep ++ rest)) = some rest :=
    after?_append (first :: sep) rest
  rw [List.append_assoc, cutAt?_append_of_not_mem absent, List.cons_append, cutAt?, found]
  simp

theorem cutAt?_eq_none {first : α} {sep items : List α} (absent : first ∉ items) :
    cutAt? (first :: sep) items = none := by
  rw [← List.append_nil items, cutAt?_append_of_not_mem absent]
  rfl

theorem splitOn_of_cut {sep items before rest : List α} (nonempty : sep ≠ [])
    (found : cutAt? sep items = some (before, rest)) :
    splitOn sep items = before :: splitOn sep rest := by
  rw [splitOn, dif_neg nonempty]
  split
  · rename_i found'
    obtain ⟨rfl, rfl⟩ := Prod.mk.inj (Option.some.inj (found.symm.trans found'))
    rfl
  · rename_i missing
    rw [found] at missing
    cases missing

theorem splitOn_of_not_occursIn {sep items : List α} (nonempty : sep ≠ [])
    (absent : occursIn sep items = false) : splitOn sep items = [items] := by
  rw [splitOn, dif_neg nonempty]
  split
  · rename_i found
    rw [occursIn, found] at absent
    cases absent
  · rfl

/-- Pieces that are put together with a separator, and that it does not begin in, are what splitting
at this separator gives. -/
theorem splitOn_intercalate {first : α} {sep : List α} {pieces : List (List α)}
    (nonempty : pieces ≠ []) (absent : ∀ piece ∈ pieces, first ∉ piece) :
    splitOn (first :: sep) ((first :: sep).intercalate pieces) = pieces := by
  induction pieces with
  | nil => contradiction
  | cons piece more ih =>
    obtain ⟨here, behind⟩ := List.forall_mem_cons.mp absent
    cases more with
    | nil =>
      have missing : occursIn (first :: sep) piece = false := by
        rw [occursIn, cutAt?_eq_none here]
        rfl
      rw [List.intercalate_singleton, splitOn_of_not_occursIn (List.cons_ne_nil first sep) missing]
    | cons next more =>
      rw [List.intercalate_cons_cons,
        splitOn_of_cut (List.cons_ne_nil first sep) (cutAt?_append_sep here _),
        ih (List.cons_ne_nil next more) behind]

end

section
variable {α : Type _}

/-- The part of a sequence before the first mark; all of it if there is none. -/
inductive IsBefore (mark : α) : (items part : List α) → Prop where
  | whole (absent : mark ∉ items) : IsBefore mark items items
  | cut (absent : mark ∉ part) : IsBefore mark (part ++ mark :: rest) part

/-- The part of a sequence behind the last mark; all of it if there is none. -/
inductive IsBehind (mark : α) : (items part : List α) → Prop where
  | whole (absent : mark ∉ items) : IsBehind mark items items
  | cut (absent : mark ∉ part) : IsBehind mark (rest ++ mark :: part) part

theorem takeWhile_eq_of_isBefore [BEq α] [LawfulBEq α] {mark : α} {items part : List α}
    (before : IsBefore mark items part) : items.takeWhile (· != mark) = part := by
  have kept {front : List α} (absent : mark ∉ front) : ∀ item ∈ front, (item != mark) = true := by
    intro item member
    rw [bne_iff_ne]
    intro same
    subst same
    exact absent member
  cases before with
  | whole absent => exact List.takeWhile_eq_self_iff.mpr (kept absent)
  | cut absent =>
    rw [List.takeWhile_append_of_pos (kept absent)]
    simp

theorem isBefore_takeWhile [BEq α] [LawfulBEq α] (mark : α) (items : List α) :
    IsBefore mark items (items.takeWhile (· != mark)) := by
  by_cases member : mark ∈ items
  · obtain ⟨front, back, rfl, absent⟩ := List.eq_append_cons_of_mem member
    rw [takeWhile_eq_of_isBefore (.cut absent)]
    exact .cut absent
  · rw [takeWhile_eq_of_isBefore (.whole member)]
    exact .whole member

theorem isBefore_reverse_iff {mark : α} {items part : List α} :
    IsBefore mark items.reverse part.reverse ↔ IsBehind mark items part := by
  constructor
  · intro before
    generalize reversed : items.reverse = back at before
    generalize taken : part.reverse = front at before
    rw [List.reverse_eq_iff] at reversed taken
    subst reversed taken
    cases before with
    | whole absent => exact .whole (by simpa using absent)
    | cut absent =>
      rw [List.reverse_append, List.reverse_cons, List.append_assoc]
      exact .cut (by simpa using absent)
  · intro behind
    cases behind with
    | whole absent => exact .whole (by simpa using absent)
    | cut absent =>
      rw [List.reverse_append, List.reverse_cons, List.append_assoc]
      exact .cut (by simpa using absent)

theorem isBehind_takeWhile [BEq α] [LawfulBEq α] (mark : α) (items : List α) :
    IsBehind mark items (items.reverse.takeWhile (· != mark)).reverse := by
  apply isBefore_reverse_iff.mp
  rw [List.reverse_reverse]
  exact isBefore_takeWhile mark items.reverse

end

theorem trimChars_eq_rdropWhile (chars : List Char) :
    trimChars chars = (chars.dropWhile isBlank).rdropWhile isBlank := rfl

theorem trimChars_trimChars (chars : List Char) :
    trimChars (trimChars chars) = trimChars chars := by
  simp only [trimChars_eq_rdropWhile]
  have front : ((chars.dropWhile isBlank).rdropWhile isBlank).dropWhile isBlank =
      (chars.dropWhile isBlank).rdropWhile isBlank := by
    rw [List.dropWhile_eq_self_iff]
    intro nonempty
    obtain ⟨rest, joined⟩ := List.rdropWhile_prefix isBlank (chars.dropWhile isBlank)
    have longer : 0 < (chars.dropWhile isBlank).length := by
      have total := congrArg List.length joined
      rw [List.length_append] at total
      omega
    have solid := List.dropWhile_get_zero_not isBlank chars longer
    rwa [List.get_eq_getElem, List.getElem_of_eq joined.symm longer,
      List.getElem_append_left nonempty] at solid
  rw [front, List.rdropWhile_idempotent]

@[simp] theorem trim_trim (text : String) : trim (trim text) = trim text := by
  rw [trim, trim, String.toList_ofList, trimChars_trimChars]

theorem trimChars_of_solid {chars : List Char} (solid : ∀ char ∈ chars, isBlank char = false) :
    trimChars chars = chars := by
  have kept {items : List Char} (solid : ∀ char ∈ items, isBlank char = false) :
      items.dropWhile isBlank = items := by
    cases items with
    | nil => rfl
    | cons item items => rw [List.dropWhile_cons, solid item List.mem_cons_self, if_neg nofun]
  rw [trimChars, kept solid, kept fun char member => solid char (List.mem_reverse.mp member),
    List.reverse_reverse]

/-- A blank in front is trimmed away. -/
theorem trim_space_append (text : String) : trim (" " ++ text) = trim text := by
  rw [trim, trim, String.toList_append]
  rfl

/-- Trimming drops nothing but blanks. -/
theorem mem_trimChars_of_mem {char : Char} {chars : List Char} (member : char ∈ chars)
    (solid : isBlank char = false) : char ∈ trimChars chars := by
  have kept {items : List Char} (member : char ∈ items) : char ∈ items.dropWhile isBlank := by
    rw [← List.takeWhile_append_dropWhile (p := isBlank) (l := items)] at member
    rcases List.mem_append.mp member with dropped | rest
    · simp [List.mem_takeWhile_imp dropped] at solid
    · exact rest
  exact List.mem_reverse.mpr (kept (List.mem_reverse.mpr (kept member)))

end ScriptHost.Text
