import Mathlib.Data.List.Basic
import ScriptHost.Json.Printer
import ScriptHost.Json.Token
import ScriptHost.Proofs.Number.Numeral

/-! What the pieces of a JSON text are read as. A quoted text is read back whole, whatever it holds;
a number is, as long as what follows cannot be part of it. -/
namespace ScriptHost.Json

/-- What follows neither adds to a number nor makes it something else. -/
def EndsNumber (rest : List Char) : Prop :=
  ∀ char ∈ rest.head?, char.isDigit = false ∧ char ≠ '.' ∧ char ≠ 'e' ∧ char ≠ 'E'

theorem EndsNumber.cons {char : Char}
    (apart : char.isDigit = false ∧ char ≠ '.' ∧ char ≠ 'e' ∧ char ≠ 'E') (rest : List Char) :
    EndsNumber (char :: rest) := by
  rintro _ ⟨⟩
  exact apart

/-- The characters are read as the tokens, whatever follows that is no part of the last of them. -/
def Spells (chars : List Char) (spelled : List Token) : Prop :=
  ∀ rest, EndsNumber rest → tokens (chars ++ rest) = (tokens rest).map (spelled ++ ·)

/-! Texts in quotes. -/

private theorem hexQuad?_hexDigit :
    ∀ code < 0x20, hexQuad? '0' '0' (hexDigit (code / 16)) (hexDigit (code % 16)) = some code := by
  decide

private theorem pushUnit_of_control {text : OpenText} (whole : text.half = none) {char : Char}
    (control : char.toNat < 0x20) : text.pushUnit char.toNat = text.push char := by
  rw [OpenText.pushUnit, whole]
  dsimp only
  rw [if_neg (by omega), if_neg (by omega), Char.ofNat_toNat]

/-- A character is read back off what stands for it inside quotes. -/
theorem readText_quoteChar {text : OpenText} (whole : text.half = none) (char : Char)
    (rest : List Char) : readText text (quoteChar char ++ rest) = readText (text.push char) rest := by
  unfold quoteChar
  split
  case h_8 =>
    split
    · rename_i control
      simp only [List.cons_append, List.nil_append, readText, hexQuad?_hexDigit _ control,
        pushUnit_of_control whole control]
    · rename_i visible
      rw [List.singleton_append, readText, if_neg visible]
      all_goals simp_all
  all_goals simp [readText, escaped?]

private theorem readText_flatMap_quoteChar {text : OpenText} (whole : text.half = none)
    (chars rest : List Char) :
    readText text (chars.flatMap quoteChar ++ '"' :: rest) =
      some (OpenText.close ⟨chars.reverse ++ text.chars, none, text.broken⟩, rest) := by
  induction chars generalizing text with
  | nil =>
    obtain ⟨read, half, broken⟩ := text
    obtain rfl : half = none := whole
    rfl
  | cons char chars ih =>
    rw [List.flatMap_cons, List.append_assoc, readText_quoteChar whole, ih (by rfl)]
    simp [OpenText.push, whole]

private theorem readToken_quote (text : String) (rest : List Char) :
    readToken ((quote text).toList ++ rest) = some (.scalar (.string (some text)), rest) := by
  have opened : (quote text).toList ++ rest =
      '"' :: (text.toList.flatMap quoteChar ++ '"' :: rest) := by
    simp [quote]
  rw [opened, readToken, readText_flatMap_quoteChar (by rfl)]
  simp [OpenText.close]

/-! Numbers. -/

private theorem natOfDigits_toDigits (number : Nat) :
    natOfDigits (Nat.toDigits 10 number) = number := by
  have same : natOfDigits (Nat.toDigits 10 number) =
      Nat.ofDigitChars 10 (Nat.toDigits 10 number) 0 := by
    simp only [natOfDigits, Nat.ofDigitChars, digitOf, Nat.mul_comm]
  rw [same, Nat.ofDigitChars_toDigits (by decide) (by decide)]

private theorem spanDigits_toDigits (number : Nat) {rest : List Char} (ends : EndsNumber rest) :
    spanDigits (Nat.toDigits 10 number ++ rest) = (Nat.toDigits 10 number, rest) := by
  have digits : ∀ char ∈ Nat.toDigits 10 number, char.isDigit = true := fun char member =>
    Nat.isDigit_of_mem_toDigits (by decide) (by decide) member
  have none : rest.takeWhile (·.isDigit) = [] ∧ rest.dropWhile (·.isDigit) = rest := by
    cases rest with
    | nil => exact ⟨rfl, rfl⟩
    | cons char rest => simp [(ends char rfl).1]
  rw [spanDigits, List.takeWhile_append_of_pos digits, List.dropWhile_append_of_pos digits,
    none.1, none.2, List.append_nil]

/-- A zero in front of a printed number is all of it. -/
private theorem readWhole_toDigits (number : Nat) {rest : List Char} (ends : EndsNumber rest) :
    readWhole (Nat.toDigits 10 number ++ rest) = some (Nat.toDigits 10 number, rest) := by
  rw [readWhole, spanDigits_toDigits number ends]
  split
  · rename_i same
    exact absurd (Prod.mk.inj same).1 Nat.toDigits_ne_nil
  · rename_i same
    have digits := (Prod.mk.inj same).1
    rcases Nat.eq_zero_or_pos number with rfl | positive
    · cases digits
    · exact absurd (congrArg List.head? digits) (Number.head?_toDigits positive)
  · rfl

private theorem readNumeral_toDigits (number : Nat) {rest : List Char} (ends : EndsNumber rest) :
    readNumeral false (Nat.toDigits 10 number ++ rest) = some (.ofNat number, rest) := by
  have fraction : readFraction rest = some (none, rest) := by
    cases rest with
    | nil => rfl
    | cons char rest => simp [readFraction, (ends char rfl).2.1]
  have exponent : readExponent rest = some (none, rest) := by
    cases rest with
    | nil => rfl
    | cons char rest => simp [readExponent, (ends char rfl).2.2]
  rw [readNumeral, readWhole_toDigits number ends]
  simp [fraction, exponent, natOfDigits_toDigits, Numeral.ofNat]

private theorem readToken_toString (number : Nat) {rest : List Char} (ends : EndsNumber rest) :
    readToken ((toString number).toList ++ rest) =
      some (.scalar (.number (.ofNat number)), rest) := by
  have numeral := readNumeral_toDigits number ends
  have spelled : (toString number).toList = Nat.toDigits 10 number := by
    rw [Nat.toString_eq_ofList_toDigits, String.toList_ofList]
  cases digits : Nat.toDigits 10 number with
  | nil => exact absurd digits Nat.toDigits_ne_nil
  | cons first more =>
    have digit : first.isDigit = true :=
      Nat.isDigit_of_mem_toDigits (b := 10) (by decide) (by decide) (digits ▸ List.mem_cons_self)
    rw [digits, List.cons_append] at numeral
    rw [spelled, digits, List.cons_append, readToken, numeral]
    · rfl
    -- No other token begins with a digit.
    all_goals
      intros
      simp_all +decide

/-! Tokens one after the other. -/

private theorem readToken_of_isSpace {char : Char} (space : isSpace char = true)
    (rest : List Char) : readToken (char :: rest) = none := by
  simp only [isSpace, Bool.or_eq_true, beq_iff_eq, or_assoc] at space
  rcases space with rfl | rfl | rfl | rfl <;> rfl

private theorem tokens_of_readToken {chars rest : List Char} {token : Token}
    (read : readToken chars = some (token, rest)) :
    tokens chars = (tokens rest).map (token :: ·) := by
  cases chars with
  | nil => cases read
  | cons char chars =>
    have solid : ¬isSpace char = true := by
      intro space
      rw [readToken_of_isSpace space] at read
      cases read
    rw [tokens, if_neg solid]
    split <;> simp_all

namespace Spells

variable {chars front back : List Char} {spelled first second : List Token}

theorem nil : Spells [] [] := by
  intro rest _
  simp

/-- A mark is read for itself. -/
theorem mark {char : Char} {token : Token}
    (read : ∀ rest, readToken (char :: rest) = some (token, rest)) (more : Spells chars spelled) :
    Spells (char :: chars) (token :: spelled) := by
  intro rest ends
  rw [List.cons_append, tokens_of_readToken (read _), more rest ends, Option.map_map]
  rfl

/-- Blanks in front are passed over. -/
theorem blank {char : Char} (space : isSpace char = true) (more : Spells chars spelled) :
    Spells (char :: chars) spelled := by
  intro rest ends
  rw [List.cons_append, tokens, if_pos space]
  exact more rest ends

theorem blanks {gap : List Char} (spaces : gap.all isSpace) (more : Spells chars spelled) :
    Spells (gap ++ chars) spelled := by
  induction gap with
  | nil => exact more
  | cons char gap ih =>
    rw [List.all_cons, Bool.and_eq_true] at spaces
    exact blank spaces.1 (ih spaces.2)

theorem append (before : Spells front first) (behind : Spells back second)
    (ends : ∀ rest, EndsNumber rest → EndsNumber (back ++ rest)) :
    Spells (front ++ back) (first ++ second) := by
  intro rest bounded
  rw [List.append_assoc, before _ (ends rest bounded), behind rest bounded, Option.map_map]
  simp [Function.comp_def]

/-- Pieces with a comma and perhaps blanks between them, in front of what closes them. -/
theorem separated {gap : List Char} (spaces : gap.all isSpace) {pieces : List (List Char)}
    {parts : List (List Token)} (each : List.Forall₂ Spells pieces parts)
    (closed : Spells back second) (ends : ∀ rest, EndsNumber (back ++ rest)) :
    Spells ((',' :: gap).intercalate pieces ++ back) ([.comma].intercalate parts ++ second) := by
  induction each with
  | nil => exact closed
  | @cons piece part pieces parts spelled more ih =>
    cases more with
    | nil =>
      rw [List.intercalate_singleton, List.intercalate_singleton]
      exact spelled.append closed fun rest _ => ends rest
    | cons next more =>
      have behind := @mark _ _ ',' .comma (fun _ => rfl) (blanks spaces ih)
      rw [List.intercalate_cons_cons, List.intercalate_cons_cons]
      simp only [List.append_assoc, List.cons_append, List.nil_append] at behind ⊢
      exact spelled.append behind fun rest _ => .cons (by decide) _

end Spells

theorem spells_quote (text : String) :
    Spells (quote text).toList [.scalar (.string (some text))] := by
  intro rest _
  exact tokens_of_readToken (readToken_quote text rest)

theorem spells_toString (number : Nat) :
    Spells (toString number).toList [.scalar (.number (.ofNat number))] := by
  intro rest ends
  exact tokens_of_readToken (readToken_toString number ends)

theorem spells_bool (truth : Bool) :
    Spells (if truth then "true" else "false").toList [.scalar (.bool truth)] := by
  intro rest _
  cases truth <;> exact tokens_of_readToken rfl

theorem spells_null : Spells "null".toList [.scalar .null] := by
  intro rest _
  exact tokens_of_readToken rfl

end ScriptHost.Json
