import Mathlib.Data.List.TakeWhile
import ScriptHost.Proofs.Number.Numeral
import ScriptHost.Proofs.Toml.Quotes
import ScriptHost.Toml.Document

/-! What written lines are read as: headers and assignments of bare keys, where a value is a string in
quotes, a number or a truth value. -/
namespace ScriptHost.Toml

/-! Words. -/

section Digits

variable {chars rest : List Char}

theorem ne_of_isDigit {char other : Char} (digit : char.isDigit = true)
    (noDigit : other.isDigit = false) : char ≠ other := by
  rintro rfl
  exact absurd digit (by simp [noDigit])

theorem behind?_of_digits {mark : Char} (digits : ∀ char ∈ chars, char.isDigit = true)
    (noDigit : mark.isDigit = false) : behind? mark chars = none := by
  cases chars with
  | nil => rfl
  | cons char chars =>
    rw [behind?, if_neg (ne_of_isDigit (digits char List.mem_cons_self) noDigit)]

theorem suffix_of_pair? {low high number : Nat}
    (read : pair? low high chars = some (number, rest)) : rest <:+ chars := by
  unfold pair? at read
  split at read
  · split at read
    · split at read
      · cases read
        exact ⟨[_, _], rfl⟩
      · cases read
    · cases read
  · cases read

theorem behindTime?_of_digits (digits : ∀ char ∈ chars, char.isDigit = true) :
    behindTime? chars = none := by
  unfold behindTime?
  cases read : pair? 0 23 chars with
  | none => rfl
  | some pair =>
    have later : ∀ char ∈ pair.2, char.isDigit = true := fun char member =>
      digits char ((suffix_of_pair? read).subset member)
    simp [behind?_of_digits later]

theorem behindDate?_of_digits (digits : ∀ char ∈ chars, char.isDigit = true) :
    behindDate? chars = none := by
  unfold behindDate?
  cases read : pair? 0 99 chars with
  | none => rfl
  | some pair =>
    cases again : pair? 0 99 pair.2 with
    | none => simp [again]
    | some second =>
      have later : ∀ char ∈ second.2, char.isDigit = true := fun char member =>
        digits char ((suffix_of_pair? read).subset ((suffix_of_pair? again).subset member))
      simp [again, behind?_of_digits later]

theorem isDateTime_of_digits (digits : ∀ char ∈ chars, char.isDigit = true) :
    isDateTime chars = false := by
  rw [isDateTime, behindTime?_of_digits digits, behindDate?_of_digits digits]
  rfl

theorem isSome_digit?_of_isDigit {char : Char} (digit : char.isDigit = true) :
    (Number.digit? 10 char).isSome = true := by
  have bounds : 48 ≤ char.toNat ∧ char.toNat ≤ 57 := by
    simpa [Char.isDigit, UInt32.le_iff_toNat_le] using digit
  have value : Number.digit? 10 char = some (char.toNat - 48) :=
    Number.digit?_eq_some_iff.mpr ⟨by omega, .inl ⟨by omega, by
      have zero : '0'.toNat = 48 := rfl
      omega⟩⟩
  rw [value]
  rfl

theorem ungroup?_of_digits (digits : ∀ char ∈ chars, char.isDigit = true) (some : chars ≠ []) :
    ungroup? 10 chars = .some chars := by
  induction chars with
  | nil => exact absurd rfl some
  | cons char chars ih =>
    obtain ⟨first, others⟩ := List.forall_mem_cons.mp digits
    cases chars with
    | nil => rw [ungroup?, if_pos (isSome_digit?_of_isDigit first)]
    | cons second chars =>
      rw [ungroup?, if_pos (isSome_digit?_of_isDigit first), ih others (List.cons_ne_nil _ _)]
      · rfl
      · exact List.cons_ne_nil _ _
      · rintro more same
        exact ne_of_isDigit (others second List.mem_cons_self) (by decide) (List.cons.inj same).1

/-- No zero stands in front of the digits of a number. -/
theorem wholeDigits?_toDigits (number : Nat) :
    wholeDigits? (Nat.toDigits 10 number) = some (Nat.toDigits 10 number) := by
  have digits : ∀ char ∈ Nat.toDigits 10 number, char.isDigit = true := fun char member =>
    Nat.isDigit_of_mem_toDigits (by decide) (by decide) member
  rw [wholeDigits?, ungroup?_of_digits digits Nat.toDigits_ne_nil]
  split
  · rename_i same
    have begins := Option.some.inj same
    rcases Nat.eq_zero_or_pos number with rfl | positive
    · cases begins
    · exact absurd (congrArg List.head? begins) (Number.head?_toDigits positive)
  · rfl

theorem ofInt?_natCast {number : Nat} (small : number < 2 ^ 63) :
    ofInt? (number : Int) = some (.integer number) := by
  have above : -Int.pow 2 63 ≤ (number : Int) := Int.le_trans (by decide) (Int.natCast_nonneg number)
  have below : (number : Int) < Int.pow 2 63 := Int.ofNat_lt.mpr small
  rw [ofInt?, if_pos ⟨above, below⟩]

theorem ofUnsigned?_toDigits {number : Nat} (small : number < 2 ^ 63) :
    ofUnsigned? false (Nat.toDigits 10 number) = some (.integer number) := by
  have inside : ∀ char ∈ Nat.toDigits 10 number, (!endsDigits char) = true := by
    intro char member
    have digit := Nat.isDigit_of_mem_toDigits (by decide) (by decide) member
    simp [endsDigits, ne_of_isDigit digit]
  have all := List.takeWhile_eq_self_iff.mpr inside
  have none := List.dropWhile_eq_nil_iff.mpr inside
  rw [ofUnsigned?, all, none, wholeDigits?_toDigits]
  rw [Option.bind_eq_bind, Option.bind_some]
  dsimp only
  rw [Option.bind_eq_bind, Number.digits?_toDigits, Option.bind_some, if_neg Bool.false_ne_true]
  exact ofInt?_natCast small

/-- The digits of a number stand for it. -/
theorem ofWord?_toDigits {number : Nat} (small : number < 2 ^ 63) :
    ofWord? (Nat.toDigits 10 number) = some (.integer number) := by
  have digits : ∀ char ∈ Nat.toDigits 10 number, char.isDigit = true := fun char member =>
    Nat.isDigit_of_mem_toDigits (by decide) (by decide) member
  have absent : ∀ char, char.isDigit = false → char ∉ Nat.toDigits 10 number :=
    fun char noDigit member => absurd (digits char member) (by simp [noDigit])
  have decimal : ofDecimal? false (Nat.toDigits 10 number) = some (.integer number) := by
    rw [ofDecimal?, if_neg]
    · exact ofUnsigned?_toDigits small
    · rintro (same | same)
      · exact absent 'i' (by decide) (same ▸ by decide)
      · exact absent 'n' (by decide) (same ▸ by decide)
  have notTrue : Nat.toDigits 10 number ≠ "true".toList := fun same =>
    absent 't' (by decide) (same ▸ by decide)
  have notFalse : Nat.toDigits 10 number ≠ "false".toList := fun same =>
    absent 'f' (by decide) (same ▸ by decide)
  unfold ofWord?
  rw [if_neg notTrue, if_neg notFalse, if_neg (by simp [isDateTime_of_digits digits])]
  split
  · exact absurd (by simp [*]) (absent 'x' (by decide))
  · exact absurd (by simp [*]) (absent 'o' (by decide))
  · exact absurd (by simp [*]) (absent 'b' (by decide))
  · exact absurd (by simp [*]) (absent '-' (by decide))
  · exact absurd (by simp [*]) (absent '+' (by decide))
  · exact decimal

end Digits

/-! Values. -/

/-- At the end of a line the characters are read as the value. -/
def SpellsValue (chars : List Char) (value : Toml) : Prop :=
  ∀ rest, readValue maxDepth (skipBlanks (chars ++ '\n' :: rest)) = some (value, '\n' :: rest)

theorem skipBlanks_cons {char : Char} (solid : isBlank char = false) (rest : List Char) :
    skipBlanks (char :: rest) = char :: rest := by
  rw [skipBlanks, List.dropWhile_cons, solid]
  rfl

/-- A word is a value if it stands for one and cannot be taken for the start of anything else. -/
theorem spellsValue_word {char : Char} {chars : List Char}
    (solid : isBlank char = false) (noOpening : char ∉ ['[', '\x7b', '"', '\''])
    (inside : ∀ other ∈ char :: chars, (!endsWord other) = true)
    (word : ofWord? (char :: chars) = some value) : SpellsValue (char :: chars) value := by
  intro rest
  simp only [List.mem_cons, List.not_mem_nil, or_false, not_or] at noOpening
  obtain ⟨noBracket, noBrace, noDouble, noSingle⟩ := noOpening
  have takes : (char :: chars ++ '\n' :: rest).takeWhile (!endsWord ·) = char :: chars := by
    rw [List.takeWhile_append_of_pos inside, List.takeWhile_cons_of_neg (by decide), List.append_nil]
  have drops : (char :: chars ++ '\n' :: rest).dropWhile (!endsWord ·) = '\n' :: rest := by
    rw [List.dropWhile_append_of_pos inside, List.dropWhile_cons_of_neg (by decide)]
  have scalar : readScalar (char :: chars ++ '\n' :: rest) = some (value, '\n' :: rest) := by
    rw [List.cons_append, readScalar]
    · rw [← List.cons_append, readWord, takes, drops, word]
      -- A line end is not the blank that may stand between a date and a time.
      split
      · rename_i same
        cases same
      · rfl
    · exact fun more same => noDouble (List.cons.inj same).1
    · exact fun more same => noSingle (List.cons.inj same).1
  rw [List.cons_append, skipBlanks_cons solid, maxDepth, readValue]
  · exact scalar
  · exact fun _ _ _ same => noBracket (List.cons.inj same).1
  · exact fun _ _ _ same => noBrace (List.cons.inj same).1

theorem spellsValue_bool (truth : Bool) :
    SpellsValue (if truth then "true" else "false").toList (.boolean truth) := by
  cases truth with
  | true => exact spellsValue_word (by decide) (by decide) (List.all_eq_true.mp rfl) rfl
  | false => exact spellsValue_word (by decide) (by decide) (List.all_eq_true.mp rfl) rfl

theorem spellsValue_toString {number : Nat} (small : number < 2 ^ 63) :
    SpellsValue (toString number).toList (.integer number) := by
  have digits : ∀ char ∈ Nat.toDigits 10 number, char.isDigit = true := fun char member =>
    Nat.isDigit_of_mem_toDigits (by decide) (by decide) member
  have word := ofWord?_toDigits small
  rw [Nat.toString_eq_ofList_toDigits, String.toList_ofList]
  obtain ⟨first, more, same⟩ := List.exists_cons_of_ne_nil
    (Nat.toDigits_ne_nil : Nat.toDigits 10 number ≠ [])
  rw [same] at digits word ⊢
  have solid : ∀ char ∈ first :: more, ∀ mark, mark.isDigit = false → char ≠ mark :=
    fun char member mark => ne_of_isDigit (digits char member)
  refine spellsValue_word ?_ ?_ (fun other member => ?_) word
  · simp [isBlank, solid first List.mem_cons_self]
  · simp [solid first List.mem_cons_self]
  · simp [endsWord, solid other member]

theorem spellsValue_quote (chars : List Char) :
    SpellsValue (quote chars) (.string (String.ofList chars)) := by
  intro rest
  have double : Unmarked '"' ('\n' :: rest) := by simp [Unmarked]
  have single : Unmarked '\'' ('\n' :: rest) := by simp [Unmarked]
  have read := readQuoted_quote chars double single
  obtain ⟨mark, tail, same, marks⟩ := quote_eq_cons chars
  rw [same, List.cons_append] at read ⊢
  have scalar : readScalar (mark :: (tail ++ '\n' :: rest)) =
      some (.string (String.ofList chars), '\n' :: rest) := by
    rcases marks with rfl | rfl <;>
    · rw [readScalar, read]
      rfl
  have solid : isBlank mark = false := by
    rcases marks with rfl | rfl <;> rfl
  rw [skipBlanks_cons solid, maxDepth, readValue]
  · exact scalar
  · rintro room more _ same
    rcases marks with rfl | rfl <;> cases same
  · rintro room more _ same
    rcases marks with rfl | rfl <;> cases same

/-! Lines. -/

/-- The lines are read as the statements, whatever lines follow. -/
def SpellsLines (chars : List Char) (statements : List Statement) : Prop :=
  ∀ rest, readStatements (chars ++ rest) = (readStatements rest).map (statements ++ ·)

theorem SpellsLines.append {front back : List Char} {first second : List Statement}
    (before : SpellsLines front first) (behind : SpellsLines back second) :
    SpellsLines (front ++ back) (first ++ second) := by
  intro rest
  rw [List.append_assoc, before, behind, Option.map_map]
  congr 1
  funext more
  exact (List.append_assoc first second more).symm

theorem SpellsLines.read {chars : List Char} {statements : List Statement}
    (spells : SpellsLines chars statements) : readStatements chars = some statements := by
  have read := spells []
  rwa [List.append_nil, show readStatements [] = some [] by rw [readStatements]; rfl,
    Option.map_some, List.append_nil] at read

theorem nextLine?_newline (rest : List Char) : nextLine? ('\n' :: rest) = some rest := rfl

theorem readStatements_newline (rest : List Char) :
    readStatements ('\n' :: rest) = readStatements rest := by
  rw [readStatements, nextLine?_newline]
  simp

/-- An empty line says nothing. -/
theorem SpellsLines.emptyLine {chars : List Char} {statements : List Statement}
    (spells : SpellsLines chars statements) : SpellsLines (chars ++ ['\n']) statements := by
  intro rest
  rw [List.append_assoc, List.singleton_append, spells, readStatements_newline]

/-- What does not begin as a line without a statement does is read as a statement. -/
theorem spellsLines_of_readStatement {char : Char} {chars : List Char} {statement : Statement}
    (solid : isBlank char = false) (begins : char ∉ ['#', '\n', '\r'])
    (read : ∀ rest, readStatement (char :: chars ++ '\n' :: rest) = some (statement, '\n' :: rest)) :
    SpellsLines (char :: chars ++ ['\n']) [statement] := by
  intro rest
  simp only [List.mem_cons, List.not_mem_nil, or_false, not_or] at begins
  obtain ⟨noComment, noEnd, noReturn⟩ := begins
  have full : nextLine? (char :: (chars ++ '\n' :: rest)) = none := by
    rw [nextLine?, skipBlanks_cons solid, skipComment]
    · split
      · rename_i same
        cases same
      · rename_i same
        exact absurd (List.cons.inj same).1 noEnd
      · rename_i same
        exact absurd (List.cons.inj same).1 noReturn
      · rfl
    · exact fun more same => noComment (List.cons.inj same).1
  have given : readStatement (char :: (chars ++ '\n' :: rest)) = some (statement, '\n' :: rest) :=
    read rest
  have further : rest.length < (char :: (chars ++ '\n' :: rest)).length := by
    simp only [List.length_cons, List.length_append]
    omega
  rw [List.append_assoc, List.singleton_append, List.cons_append, readStatements, full,
    skipBlanks_cons solid, given]
  simp only [List.isEmpty_cons, Bool.false_eq_true, if_false, nextLine?_newline, if_pos further,
    List.singleton_append]

/-- A key of one part that needs no quotes. -/
def IsBare (name : String) : Prop :=
  name.toList ≠ [] ∧ ∀ char ∈ name.toList, isKeyChar char = true

instance (name : String) : Decidable (IsBare name) :=
  decidable_of_iff (name.toList ≠ [] ∧ name.toList.all isKeyChar = true)
    (and_congr_right fun _ => List.all_eq_true)

theorem isBlank_of_isKeyChar {char : Char} (keyChar : isKeyChar char = true) :
    isBlank char = false := by
  by_contra blank
  rw [Bool.not_eq_false, isBlank, Bool.or_eq_true, beq_iff_eq, beq_iff_eq] at blank
  rcases blank with rfl | rfl <;> exact absurd keyChar (by decide)

theorem IsBare.ne_cons {name : String} (bare : IsBare name) {mark : Char}
    (apart : isKeyChar mark = false) (rest more : List Char) :
    name.toList ++ rest ≠ mark :: more := by
  intro same
  obtain ⟨char, chars, split⟩ := List.exists_cons_of_ne_nil bare.1
  have first := bare.2 char (split ▸ List.mem_cons_self)
  rw [split] at same
  rw [(List.cons.inj same).1, apart] at first
  cases first

theorem readKeyPart_bare {name : String} (bare : IsBare name) {next : Char}
    (ends : isKeyChar next = false) (rest : List Char) :
    readKeyPart (name.toList ++ next :: rest) = some (name, next :: rest) := by
  have takes : (name.toList ++ next :: rest).takeWhile isKeyChar = name.toList := by
    rw [List.takeWhile_append_of_pos bare.2, List.takeWhile_cons_of_neg (by simp [ends]),
      List.append_nil]
  have drops : (name.toList ++ next :: rest).dropWhile isKeyChar = next :: rest := by
    rw [List.dropWhile_append_of_pos bare.2, List.dropWhile_cons_of_neg (by simp [ends])]
  rw [readKeyPart, takes, drops]
  · simp [bare.1]
  · exact bare.ne_cons (by decide) _
  · exact bare.ne_cons (by decide) _

/-- A bare key ends in front of anything but a point, blanks aside. -/
theorem readKey_bare {name : String} (bare : IsBare name) {next : Char}
    (ends : isKeyChar next = false) {rest : List Char} (room : Nat)
    (noDot : ∀ more, skipBlanks (next :: rest) ≠ '.' :: more) :
    readKey (room + 1) (name.toList ++ next :: rest) =
      some (⟨[], name⟩, skipBlanks (next :: rest)) := by
  have solid : skipBlanks (name.toList ++ next :: rest) = name.toList ++ next :: rest := by
    obtain ⟨char, chars, split⟩ := List.exists_cons_of_ne_nil bare.1
    rw [split, List.cons_append,
      skipBlanks_cons (isBlank_of_isKeyChar (bare.2 char (split ▸ List.mem_cons_self)))]
  rw [readKey, solid, readKeyPart_bare bare ends, Option.bind_some]
  dsimp only
  split
  · exact absurd ‹_› (noDot _)
  · rfl

theorem spellsLines_header {name : String} (bare : IsBare name) :
    SpellsLines ('[' :: (name.toList ++ [']']) ++ ['\n']) [.header ⟨[], name⟩] := by
  refine spellsLines_of_readStatement (by decide) (by decide) fun rest => ?_
  have key : readKey maxDepth (name.toList ++ ']' :: '\n' :: rest) =
      some (⟨[], name⟩, ']' :: '\n' :: rest) :=
    readKey_bare bare (by decide) 78 (by simp [skipBlanks, isBlank])
  rw [List.cons_append, List.append_assoc, List.singleton_append, readStatement, key]
  · rfl
  · exact bare.ne_cons (by decide) _

theorem spellsLines_assignment {name : String} (bare : IsBare name) {chars : List Char}
    (spells : SpellsValue chars value) :
    SpellsLines (name.toList ++ " = ".toList ++ chars ++ ['\n'])
      [.assignment ⟨[], name⟩ value] := by
  have read (rest : List Char) : readStatement (name.toList ++ " = ".toList ++ chars ++ '\n' :: rest) =
      some (.assignment ⟨[], name⟩ value, '\n' :: rest) := by
    have key : readKey maxDepth (name.toList ++ ' ' :: '=' :: ' ' :: (chars ++ '\n' :: rest)) =
        some (⟨[], name⟩, '=' :: ' ' :: (chars ++ '\n' :: rest)) :=
      readKey_bare bare (by decide) 78 (by simp [skipBlanks, isBlank])
    have split : name.toList ++ " = ".toList ++ chars ++ '\n' :: rest =
        name.toList ++ ' ' :: '=' :: ' ' :: (chars ++ '\n' :: rest) := by
      simp
    have given : readValue maxDepth (skipBlanks (' ' :: (chars ++ '\n' :: rest))) =
        some (value, '\n' :: rest) := spells rest
    rw [split, readStatement, readAssignment, key, Option.bind_some]
    · change Option.map _ (Option.map _
        (readValue maxDepth (skipBlanks (' ' :: (chars ++ '\n' :: rest))))) = _
      rw [given]
      rfl
    · exact fun _ => bare.ne_cons (by decide) _ _
    · exact fun _ => bare.ne_cons (by decide) _ _
  obtain ⟨char, more, same⟩ := List.exists_cons_of_ne_nil bare.1
  have first := bare.2 char (same ▸ List.mem_cons_self)
  rw [same] at read ⊢
  refine spellsLines_of_readStatement (isBlank_of_isKeyChar first) ?_ read
  simp only [List.mem_cons, List.not_mem_nil, or_false, not_or]
  refine ⟨?_, ?_, ?_⟩ <;>
  · rintro rfl
    exact absurd first (by decide)

end ScriptHost.Toml
