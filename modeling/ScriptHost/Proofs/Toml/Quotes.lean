import Mathlib.Data.List.Basic
import ScriptHost.Toml.Quoted

/-! Strings in quotes. Whatever style a string is written in, it is read back whole. -/
namespace ScriptHost.Toml

/-- What follows does not begin with a mark. -/
def Unmarked (mark : Char) (rest : List Char) : Prop := rest.head? ≠ some mark

/-! On one line between double marks. -/

private theorem ofHex?_hexDigit : ∀ code < 0x80,
    ofHex? ['0', '0', hexDigit (code / 16), hexDigit (code % 16)] = some (Char.ofNat code) := by
  decide +kernel

theorem toNat_lt_of_not_isPrintable {char : Char} (hidden : ¬isPrintable char = true) :
    char.toNat < 0x80 := by
  simp only [isPrintable, Bool.or_eq_true, Bool.and_eq_true, decide_eq_true_eq, bne_iff_ne,
    not_or, not_and_or, not_not] at hidden
  omega

private theorem ofHex?_of_not_isPrintable {char : Char} (hidden : ¬isPrintable char = true) :
    ofHex? ['0', '0', hexDigit (char.toNat / 16), hexDigit (char.toNat % 16)] = some char := by
  rw [ofHex?_hexDigit _ (toNat_lt_of_not_isPrintable hidden), Char.ofNat_toNat]

theorem readBasic_escapeChar (char : Char) (rest : List Char) :
    readBasic (escapeChar char ++ rest) = consChar (some char) (readBasic rest) := by
  unfold escapeChar
  split
  case h_8 =>
    split
    · rename_i visible
      rw [List.singleton_append, readBasic, if_pos visible]
      all_goals simp_all
    · rename_i hidden
      simp only [List.cons_append, List.nil_append, readBasic, ofHex?_of_not_isPrintable hidden]
  all_goals rfl

theorem readBasic_escaped (chars rest : List Char) :
    readBasic (chars.flatMap escapeChar ++ '"' :: rest) = some (chars, rest) := by
  induction chars with
  | nil => rfl
  | cons char chars ih =>
    rw [List.flatMap_cons, List.append_assoc, readBasic_escapeChar, ih]
    rfl

/-! On one line between single marks. -/

theorem readLiteral_printable {chars : List Char} (visible : ∀ char ∈ chars, isPrintable char = true)
    (unmarked : '\'' ∉ chars) (rest : List Char) :
    readLiteral (chars ++ '\'' :: rest) = some (chars, rest) := by
  induction chars with
  | nil => rfl
  | cons char chars ih =>
    obtain ⟨first, others⟩ := List.forall_mem_cons.mp visible
    obtain ⟨different, absent⟩ := not_or.mp (mt List.mem_cons.mpr unmarked)
    rw [List.cons_append, readLiteral, if_pos first, ih others absent]
    · rfl
    · exact fun same => different same.symm

/-! Between triple single marks. -/

/-- A mark does not stand three times in a row. -/
def NoTriple (mark : Char) (chars : List Char) : Prop := ¬[mark, mark, mark] <:+: chars

theorem NoTriple.tail {mark char : Char} {chars : List Char}
    (noTriple : NoTriple mark (char :: chars)) : NoTriple mark chars := fun triple =>
  noTriple (triple.trans (List.suffix_cons char chars).isInfix)

theorem le_longestRow (mark : Char) (current longest : Nat) (chars : List Char) :
    current ≤ longestRow mark current longest chars ∧
      longest ≤ longestRow mark current longest chars := by
  induction chars generalizing current longest with
  | nil => simp only [longestRow]; omega
  | cons char chars ih =>
    rw [longestRow]
    split
    · have := ih (current + 1) longest
      omega
    · have := ih 0 (max current longest)
      omega

theorem not_mem_of_longestRow {mark : Char} {current longest : Nat} {chars : List Char}
    (none : longestRow mark current longest chars = 0) : mark ∉ chars := by
  induction chars generalizing current longest with
  | nil => exact List.not_mem_nil
  | cons char chars ih =>
    rw [longestRow] at none
    split at none
    · have := (le_longestRow mark (current + 1) longest chars).1
      omega
    · rename_i different
      rw [List.mem_cons, not_or]
      exact ⟨fun same => different same.symm, ih none⟩

theorem noTriple_of_longestRow {mark : Char} {current longest : Nat} {chars : List Char}
    (few : longestRow mark current longest chars ≤ 2) : NoTriple mark chars := by
  induction chars generalizing current longest with
  | nil => exact fun triple => absurd (List.infix_nil.mp triple) (List.cons_ne_nil _ _)
  | cons char chars ih =>
    intro triple
    rcases List.infix_cons_iff.mp triple with here | later
    · obtain ⟨rfl, more, rfl⟩ := List.cons_prefix_cons.mp here
      simp only [List.cons_append, List.nil_append, longestRow, if_true] at few
      have := (le_longestRow mark (current + 1 + 1 + 1) longest more).1
      omega
    · rw [longestRow] at few
      split at few
      · exact ih few later
      · exact ih few later

theorem readLongLiteral_cons {char : Char} {rest : List Char}
    (open3 : ¬['\'', '\'', '\''] <+: char :: rest) (noReturn : char ≠ '\r')
    (visible : (isPrintable char || char == '\n') = true) :
    readLongLiteral (char :: rest) = consChar (some char) (readLongLiteral rest) := by
  rw [readLongLiteral, if_pos visible]
  · rintro more rfl rfl
    exact open3 ⟨_, rfl⟩
  · rintro more rfl rfl
    exact open3 ⟨_, rfl⟩
  · rintro more rfl rfl
    exact open3 ⟨_, rfl⟩
  · rintro more rfl
    exact absurd rfl noReturn

/-- Rows of at most two marks are read as they stand, also in front of the closing three. -/
theorem readLongLiteral_noTriple {chars : List Char} (noTriple : NoTriple '\'' chars)
    (visible : ∀ char ∈ chars, (isPrintable char || char == '\n') = true) {rest : List Char}
    (unmarked : Unmarked '\'' rest) :
    readLongLiteral (chars ++ '\'' :: '\'' :: '\'' :: rest) = some (chars, rest) := by
  induction chars with
  | nil =>
    rw [List.nil_append, readLongLiteral]
    · rintro more rfl
      exact unmarked rfl
    · rintro more rfl
      exact unmarked rfl
  | cons char chars ih =>
    obtain ⟨first, others⟩ := List.forall_mem_cons.mp visible
    have later := ih noTriple.tail others
    have noReturn : char ≠ '\r' := by
      rintro rfl
      exact absurd first (by decide)
    by_cases closes : char = '\'' ∧ (chars = [] ∨ chars = ['\''])
    · -- The marks of the string and the closing three are one row.
      rcases closes with ⟨rfl, rfl | rfl⟩
      · rw [List.singleton_append, readLongLiteral]
        rintro more rfl
        exact unmarked rfl
      · rfl
    · rw [List.cons_append, readLongLiteral_cons _ noReturn first, later]
      · rfl
      · intro row
        obtain ⟨rfl, second⟩ := List.cons_prefix_cons.mp row
        cases chars with
        | nil => exact closes ⟨rfl, .inl rfl⟩
        | cons char chars =>
          obtain ⟨rfl, third⟩ := List.cons_prefix_cons.mp second
          cases chars with
          | nil => exact closes ⟨rfl, .inr rfl⟩
          | cons char chars =>
            obtain ⟨rfl, -⟩ := List.cons_prefix_cons.mp third
            exact noTriple ⟨[], chars, rfl⟩

/-! Between triple double marks. -/

theorem readLongBasic_escapeChar {char : Char} (notMark : char ≠ '"') (noEnd : char ≠ '\n')
    (rest : List Char) :
    readLongBasic false (escapeChar char ++ rest) =
      consChar (some char) (readLongBasic false rest) := by
  unfold escapeChar
  split
  case h_8 =>
    split
    · rename_i visible
      rw [List.singleton_append, readLongBasic]
      all_goals simp_all
    · rename_i hidden
      simp only [List.cons_append, List.nil_append, readLongBasic,
        ofHex?_of_not_isPrintable hidden]
  case h_3 => exact absurd rfl noEnd
  case h_6 => exact absurd rfl notMark
  all_goals rfl

theorem readLongBasic_newline (rest : List Char) :
    readLongBasic false ('\n' :: rest) = consChar (some '\n') (readLongBasic false rest) := rfl

theorem readLongBasic_mark {rest : List Char} (open3 : ¬['"', '"'] <+: rest) :
    readLongBasic false ('"' :: rest) = consChar (some '"') (readLongBasic false rest) := by
  rw [readLongBasic]
  · rfl
  · rintro more - rfl
    exact open3 ⟨_, rfl⟩
  · rintro more - rfl
    exact open3 ⟨_, rfl⟩
  · rintro more - rfl
    exact open3 ⟨_, rfl⟩
  all_goals simp

theorem escapeLong_cons {char : Char} (notMark : char ≠ '"') (noEnd : char ≠ '\n') (marks : Nat)
    (chars : List Char) :
    escapeLong marks (char :: chars) = escapeChar char ++ escapeLong 0 chars := by
  rw [escapeLong]
  · exact noEnd
  · exact notMark

/-- What stands for a character begins neither with a mark nor with the end of a line. -/
theorem escapeChar_eq_cons (char : Char) :
    ∃ head tail, escapeChar char = head :: tail ∧ head ≠ '"' ∧ head ≠ '\n' ∧ head ≠ '\r' := by
  unfold escapeChar
  split
  case h_8 =>
    split
    · exact ⟨char, [], rfl, ‹_›, ‹_›, ‹_›⟩
    · exact ⟨_, _, rfl, by decide, by decide, by decide⟩
  all_goals exact ⟨_, _, rfl, by decide, by decide, by decide⟩

/-- No row of marks goes on behind two of them or with another character. -/
theorem unmarked_escapeLong {char : Char} {marks : Nat} (ends : char ≠ '"' ∨ 2 ≤ marks)
    (chars rest : List Char) : Unmarked '"' (escapeLong marks (char :: chars) ++ rest) := by
  by_cases mark : char = '"'
  · subst mark
    have many : ¬marks < 2 := Nat.not_lt.mpr (ends.resolve_left (absurd rfl))
    simp [Unmarked, escapeLong, many]
  · by_cases lineEnd : char = '\n'
    · subst lineEnd
      simp [Unmarked, escapeLong]
    · obtain ⟨head, tail, same, other, -⟩ := escapeChar_eq_cons char
      rw [escapeLong_cons mark lineEnd, same]
      simpa [Unmarked] using other

theorem Unmarked.not_begins {mark : Char} {rest : List Char} (unmarked : Unmarked mark rest)
    (more : List Char) : ¬mark :: more <+: rest := by
  rintro ⟨behind, rfl⟩
  exact unmarked rfl

/-- Behind a mark that is written as it is, two more come only where the string ends. -/
theorem not_begins_escapeLong {chars : List Char} {marks : Nat}
    (goesOn : ¬(chars = [] ∨ marks = 0 ∧ chars = ['"'])) (rest : List Char) :
    ¬['"', '"'] <+: escapeLong (marks + 1) chars ++ rest := by
  rw [not_or, not_and] at goesOn
  obtain ⟨some, lone⟩ := goesOn
  obtain ⟨second, chars, rfl⟩ := List.exists_cons_of_ne_nil some
  by_cases another : second = '"' ∧ marks = 0
  · obtain ⟨rfl, rfl⟩ := another
    have more : chars ≠ [] := fun nothing => lone rfl (by rw [nothing])
    obtain ⟨third, chars, rfl⟩ := List.exists_cons_of_ne_nil more
    intro row
    exact (unmarked_escapeLong (.inr (Nat.le_refl 2)) _ _).not_begins []
      (List.cons_prefix_cons.mp row).2
  · refine (unmarked_escapeLong ?_ _ _).not_begins ['"']
    by_cases mark : second = '"'
    · exact .inr (Nat.succ_le_succ (Nat.pos_of_ne_zero (not_and.mp another mark)))
    · exact .inl mark

/-- Whatever is written between triple marks is read back, in front of the closing three. -/
theorem readLongBasic_escapeLong (chars : List Char) (marks : Nat) {rest : List Char}
    (unmarked : Unmarked '"' rest) :
    readLongBasic false (escapeLong marks chars ++ '"' :: '"' :: '"' :: rest) =
      some (chars, rest) := by
  induction chars generalizing marks with
  | nil =>
    rw [escapeLong, List.nil_append, readLongBasic]
    · rintro more rfl
      exact unmarked rfl
    · rintro more rfl
      exact unmarked rfl
  | cons char chars ih =>
    by_cases lineEnd : char = '\n'
    · subst lineEnd
      rw [escapeLong, List.cons_append, readLongBasic_newline, ih]
      rfl
    by_cases mark : char = '"'
    · subst mark
      rw [escapeLong]
      split
      · by_cases closes : chars = [] ∨ marks = 0 ∧ chars = ['"']
        · -- The marks of the string and the closing three are one row.
          rcases closes with rfl | ⟨rfl, rfl⟩
          · rw [escapeLong, List.singleton_append, readLongBasic]
            rintro more rfl
            exact unmarked rfl
          · rfl
        · rw [List.cons_append, readLongBasic_mark (not_begins_escapeLong closes _), ih]
          rfl
      · exact congrArg (consChar (some '"')) (ih 0)
    · rw [escapeLong_cons mark lineEnd, List.append_assoc, readLongBasic_escapeChar mark lineEnd, ih]
      rfl

/-! Any style. -/

/-- What stands behind three opening marks is the string itself, if that cannot be taken for the line
end that is left out. -/
theorem skipLineEnd_longStart {chars body : List Char}
    (begun : '\n' ∉ chars → ∀ head ∈ body.head?, head ≠ '\n' ∧ head ≠ '\r') :
    skipLineEnd (longStart chars ++ body) = body := by
  rw [longStart]
  split
  · rfl
  · rename_i single
    rw [List.nil_append]
    have noEnd := begun (mt List.contains_iff_mem.mpr single)
    cases body with
    | nil => rfl
    | cons head body =>
      obtain ⟨notEnd, notReturn⟩ := noEnd head rfl
      rw [skipLineEnd]
      · exact fun _ same => notReturn (List.cons.inj same).1
      · exact fun _ same => notEnd (List.cons.inj same).1

theorem head_escapeLong {chars : List Char} (single : '\n' ∉ chars) (rest : List Char) :
    ∀ head ∈ (escapeLong 0 chars ++ '"' :: rest).head?, head ≠ '\n' ∧ head ≠ '\r' := by
  cases chars with
  | nil => simp [escapeLong]
  | cons char chars =>
    have noEnd : char ≠ '\n' := fun same => single (same ▸ List.mem_cons_self)
    by_cases mark : char = '"'
    · subst mark
      simp [escapeLong]
    · obtain ⟨head, tail, same, -, apart⟩ := escapeChar_eq_cons char
      rw [escapeLong_cons mark noEnd, same]
      simpa using apart

theorem readQuoted_basic (chars : List Char) {rest : List Char} (unmarked : Unmarked '"' rest) :
    readQuoted ('"' :: (chars.flatMap escapeChar ++ '"' :: rest)) = some (chars, rest) := by
  rw [readQuoted]
  · exact readBasic_escaped chars rest
  · cases chars with
    | nil =>
      rintro more same
      exact unmarked (by simpa using congrArg List.head? (List.cons.inj same).2)
    | cons char chars =>
      obtain ⟨head, tail, begins, other, -⟩ := escapeChar_eq_cons char
      rintro more same
      rw [List.flatMap_cons, begins] at same
      exact other (List.cons.inj same).1

theorem readQuoted_literal {chars : List Char} (visible : ∀ char ∈ chars, isPrintable char = true)
    (unmarked : '\'' ∉ chars) {rest : List Char} (apart : Unmarked '\'' rest) :
    readQuoted ('\'' :: (chars ++ '\'' :: rest)) = some (chars, rest) := by
  rw [readQuoted]
  · exact readLiteral_printable visible unmarked rest
  · cases chars with
    | nil =>
      rintro more same
      exact apart (by simpa using congrArg List.head? (List.cons.inj same).2)
    | cons char chars =>
      rintro more same
      exact unmarked ((List.cons.inj same).1 ▸ List.mem_cons_self)

theorem readQuoted_longBasic (chars : List Char) {rest : List Char} (unmarked : Unmarked '"' rest) :
    readQuoted ('"' :: '"' :: '"' ::
      (longStart chars ++ (escapeLong 0 chars ++ '"' :: '"' :: '"' :: rest))) =
        some (chars, rest) := by
  rw [readQuoted, skipLineEnd_longStart fun single => head_escapeLong single _]
  exact readLongBasic_escapeLong chars 0 unmarked

theorem readQuoted_longLiteral {chars : List Char} (noTriple : NoTriple '\'' chars)
    (visible : ∀ char ∈ chars, (isPrintable char || char == '\n') = true) {rest : List Char}
    (unmarked : Unmarked '\'' rest) :
    readQuoted ('\'' :: '\'' :: '\'' ::
      (longStart chars ++ (chars ++ '\'' :: '\'' :: '\'' :: rest))) = some (chars, rest) := by
  rw [readQuoted, skipLineEnd_longStart]
  · exact readLongLiteral_noTriple noTriple visible unmarked
  · intro single
    cases chars with
    | nil => simp
    | cons char chars =>
      rintro head ⟨rfl⟩
      refine ⟨fun same => single (same ▸ List.mem_cons_self), ?_⟩
      rintro rfl
      exact absurd (visible _ List.mem_cons_self) (by decide)

/-- A string between single marks needs no escapes. -/
theorem Quoting.of_eq_literal {chars : List Char} (style : Quoting.of chars = .literal) :
    (∀ char ∈ chars, isPrintable char = true) ∧ '\'' ∉ chars := by
  simp only [Quoting.of] at style
  split at style
  · split at style <;> cases style
  · rename_i visible
    split at style
    · cases style
    · split at style
      · rename_i plain
        simp only [Bool.and_eq_true, decide_eq_true_eq, Bool.not_eq_true', List.contains_eq_mem,
          decide_eq_false_iff_not] at plain
        refine ⟨fun char member => ?_, not_mem_of_longestRow plain.1⟩
        simp only [Bool.not_eq_true', Bool.not_eq_false, List.all_eq_true] at visible
        rcases Bool.or_eq_true_iff.mp (visible char member) with printable | lineEnd
        · exact printable
        · exact absurd (eq_of_beq lineEnd ▸ member) plain.2
      · split at style
        · cases style
        · split at style
          · cases style
          · split at style <;> cases style

theorem Quoting.of_eq_longLiteral {chars : List Char} (style : Quoting.of chars = .longLiteral) :
    NoTriple '\'' chars ∧ ∀ char ∈ chars, (isPrintable char || char == '\n') = true := by
  simp only [Quoting.of] at style
  split at style
  · split at style <;> cases style
  · rename_i visible
    simp only [Bool.not_eq_true', Bool.not_eq_false, List.all_eq_true] at visible
    refine ⟨?_, visible⟩
    split at style
    · cases style
    · split at style
      · cases style
      · split at style
        · cases style
        · split at style
          · exact noTriple_of_longestRow ‹_›
          · split at style <;> cases style

theorem quote_eq_cons (chars : List Char) :
    ∃ mark rest, quote chars = mark :: rest ∧ (mark = '"' ∨ mark = '\'') := by
  unfold quote
  split
  · exact ⟨_, _, rfl, .inl rfl⟩
  · exact ⟨_, _, rfl, .inr rfl⟩
  · exact ⟨_, _, rfl, .inl rfl⟩
  · exact ⟨_, _, rfl, .inr rfl⟩

/-- A string is read back off its quotes, whatever follows that is no mark. -/
theorem readQuoted_quote (chars : List Char) {rest : List Char} (double : Unmarked '"' rest)
    (single : Unmarked '\'' rest) : readQuoted (quote chars ++ rest) = some (chars, rest) := by
  unfold quote
  cases style : Quoting.of chars with
  | basic => simpa using readQuoted_basic chars double
  | longBasic => simpa using readQuoted_longBasic chars double
  | literal =>
    obtain ⟨visible, unmarked⟩ := Quoting.of_eq_literal style
    simpa using readQuoted_literal visible unmarked single
  | longLiteral =>
    obtain ⟨noTriple, visible⟩ := Quoting.of_eq_longLiteral style
    simpa using readQuoted_longLiteral noTriple visible single

end ScriptHost.Toml
