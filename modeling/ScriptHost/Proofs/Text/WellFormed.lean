import ScriptHost.Proofs.Text.Encoding

/-! Which bytes are text, said of the bytes alone: by the form of characters, and by the code points
that a form of so many bytes may spell. These are the bytes that encoding writes. -/
namespace ScriptHost.Text

/-- A byte that stands behind the first one of a character. -/
def IsContinuation (byte : UInt8) : Prop := 0x80 ≤ byte.toNat ∧ byte.toNat ≤ 0xBF

instance : DecidablePred IsContinuation := fun _ => inferInstanceAs (Decidable (_ ∧ _))

/-- Bytes in the form of one character, of which the first tells how many they are. The least code
point that needs so many bytes goes with them, and the one that their bits spell. -/
inductive HasForm : (bytes : Bytes) → (least code : Nat) → Prop where
  | one (head : first.toNat < 0x80) : HasForm [first] 0 first.toNat
  | two (head : 0xC0 ≤ first.toNat ∧ first.toNat < 0xE0) (tail : IsContinuation second) :
      HasForm [first, second] 0x80 ((first.toNat - 0xC0) * 64 + (second.toNat - 0x80))
  | three (head : 0xE0 ≤ first.toNat ∧ first.toNat < 0xF0) (next : IsContinuation second)
      (tail : IsContinuation third) :
      HasForm [first, second, third] 0x800
        (((first.toNat - 0xE0) * 64 + (second.toNat - 0x80)) * 64 + (third.toNat - 0x80))
  | four (head : 0xF0 ≤ first.toNat ∧ first.toNat < 0xF8) (next : IsContinuation second)
      (after : IsContinuation third) (tail : IsContinuation fourth) :
      HasForm [first, second, third, fourth] 0x10000
        ((((first.toNat - 0xF0) * 64 + (second.toNat - 0x80)) * 64 + (third.toNat - 0x80)) * 64 +
          (fourth.toNat - 0x80))

/-- One character: no longer than its code point needs, no surrogate, and not beyond the last code
point. -/
def IsCharacter (bytes : Bytes) : Prop :=
  ∃ least code, HasForm bytes least code ∧ least ≤ code ∧ ¬(0xD800 ≤ code ∧ code ≤ 0xDFFF) ∧
    code ≤ 0x10FFFF

/-- Characters one behind the other. -/
inductive WellFormed : Bytes → Prop where
  | nil : WellFormed []
  | cons (head : IsCharacter char) (tail : WellFormed rest) : WellFormed (char ++ rest)

/-! Which bytes may follow the first one of a character. -/

theorem isCharacter_two_iff {first : UInt8} {rest : Bytes} (low : 0xC2 ≤ first.toNat)
    (high : first.toNat < 0xE0) :
    IsCharacter (first :: rest) ↔ ∃ second, rest = [second] ∧ IsContinuation second := by
  constructor
  · rintro ⟨least, code, form, -⟩
    cases form with
    | two head tail => exact ⟨_, rfl, tail⟩
    | one | three | four => omega
  · rintro ⟨second, rfl, tail⟩
    have ⟨floor, ceiling⟩ := tail
    exact ⟨_, _, .two (by omega) tail, by omega, by omega, by omega⟩

theorem isCharacter_three_iff {first : UInt8} {rest : Bytes} (low : 0xE0 ≤ first.toNat)
    (high : first.toNat < 0xF0) :
    IsCharacter (first :: rest) ↔ ∃ second third, rest = [second, third] ∧
      ((if first.toNat = 0xE0 then 0xA0 else 0x80) ≤ second.toNat ∧
        second.toNat ≤ if first.toNat = 0xED then 0x9F else 0xBF) ∧ IsContinuation third := by
  constructor
  · rintro ⟨least, code, form, needed, noSurrogate, -⟩
    cases form with
    | three head next tail =>
      have ⟨_, _⟩ := next
      have ⟨_, _⟩ := tail
      exact ⟨_, _, rfl, ⟨by split <;> omega, by split <;> omega⟩, tail⟩
    | one | two | four => omega
  · rintro ⟨second, third, rfl, ⟨floor, ceiling⟩, tail⟩
    have ⟨_, _⟩ := tail
    have next : IsContinuation second := ⟨by split at floor <;> omega, by split at ceiling <;> omega⟩
    exact ⟨_, _, .three (by omega) next tail, by split at floor <;> omega,
      by split at ceiling <;> omega, by split at ceiling <;> omega⟩

theorem isCharacter_four_iff {first : UInt8} {rest : Bytes} (low : 0xF0 ≤ first.toNat)
    (high : first.toNat < 0xF5) :
    IsCharacter (first :: rest) ↔ ∃ second third fourth, rest = [second, third, fourth] ∧
      ((if first.toNat = 0xF0 then 0x90 else 0x80) ≤ second.toNat ∧
        second.toNat ≤ if first.toNat = 0xF4 then 0x8F else 0xBF) ∧
      IsContinuation third ∧ IsContinuation fourth := by
  constructor
  · rintro ⟨least, code, form, needed, -, last⟩
    cases form with
    | four head next after tail =>
      have ⟨_, _⟩ := next
      have ⟨_, _⟩ := after
      have ⟨_, _⟩ := tail
      exact ⟨_, _, _, rfl, ⟨by split <;> omega, by split <;> omega⟩, after, tail⟩
    | one | two | three => omega
  · rintro ⟨second, third, fourth, rfl, ⟨floor, ceiling⟩, after, tail⟩
    have ⟨_, _⟩ := after
    have ⟨_, _⟩ := tail
    have next : IsContinuation second := ⟨by split at floor <;> omega, by split at ceiling <;> omega⟩
    exact ⟨_, _, .four (by omega) next after tail, by split at floor <;> omega,
      by split at floor <;> omega, by split at ceiling <;> omega⟩

theorem isCharacter_one_iff {first : UInt8} {rest : Bytes} (ascii : first.toNat < 0x80) :
    IsCharacter (first :: rest) ↔ rest = [] := by
  constructor
  · rintro ⟨least, code, form, -⟩
    cases form with
    | one => rfl
    | two | three | four => omega
  · rintro rfl
    exact ⟨0, _, .one ascii, by omega, by omega, by omega⟩

theorem not_isCharacter {first : UInt8} {rest : Bytes}
    (outside : 0x80 ≤ first.toNat ∧ first.toNat < 0xC2 ∨ 0xF5 ≤ first.toNat) :
    ¬IsCharacter (first :: rest) := by
  rintro ⟨least, code, form, needed, -, last⟩
  cases form with
  | one | three | four => omega
  | two head tail =>
    have ⟨_, _⟩ := tail
    omega

/-! Characters are what encoding writes. -/

theorem isCharacter_utf8EncodeChar (char : Char) : IsCharacter (String.utf8EncodeChar char) := by
  have range := toNat_range char
  have byte {number : Nat} (small : number < 256) : (UInt8.ofNat number).toNat = number :=
    UInt8.toNat_ofNat_of_lt' small
  have tail (number : Nat) : IsContinuation (UInt8.ofNat (number % 0x40 + 0x80)) := by
    rw [IsContinuation, byte (by omega)]
    omega
  rw [utf8EncodeChar_of_toNat rfl]
  generalize char.toNat = code at range
  split
  · exact (isCharacter_one_iff (by rw [byte (by omega)]; omega)).mpr rfl
  · split
    · refine (isCharacter_two_iff ?_ ?_).mpr ⟨_, rfl, tail code⟩
      · rw [byte (by omega)]
        omega
      · rw [byte (by omega)]
        omega
    · split
      · refine (isCharacter_three_iff ?_ ?_).mpr ⟨_, _, rfl, ?_, tail code⟩
        · rw [byte (by omega)]
          omega
        · rw [byte (by omega)]
          omega
        · rw [byte (by omega), byte (by omega)]
          constructor <;> split <;> omega
      · refine (isCharacter_four_iff ?_ ?_).mpr ⟨_, _, _, rfl, ?_, tail (code / 64), tail code⟩
        · rw [byte (by omega)]
          omega
        · rw [byte (by omega)]
          omega
        · rw [byte (by omega), byte (by omega)]
          constructor <;> split <;> omega

theorem isCharacter_iff_exists {bytes : Bytes} :
    IsCharacter bytes ↔ ∃ char, bytes = String.utf8EncodeChar char := by
  constructor
  · rintro ⟨least, code, form, needed, noSurrogate, last⟩
    refine ⟨Char.ofNat code, ?_⟩
    cases form with
    | one head =>
      rw [utf8EncodeChar_of_toNat (toNat_ofNat (by omega)), if_pos (by omega), UInt8.ofNat_toNat]
    | two head tail =>
      have ⟨_, _⟩ := tail
      exact (utf8EncodeChar_ofNat_two (by omega) head.2 tail).symm
    | three head next tail =>
      have ⟨_, _⟩ := next
      have ⟨_, _⟩ := tail
      exact (utf8EncodeChar_ofNat_three head.1 head.2 ⟨by split <;> omega, by split <;> omega⟩
        tail).symm
    | four head next after tail =>
      have ⟨_, _⟩ := next
      have ⟨_, _⟩ := after
      have ⟨_, _⟩ := tail
      exact (utf8EncodeChar_ofNat_four head.1 (by omega) ⟨by split <;> omega, by split <;> omega⟩
        after tail).symm
  · rintro ⟨char, rfl⟩
    exact isCharacter_utf8EncodeChar char

theorem wellFormed_encode (chars : List Char) : WellFormed (encode chars) := by
  induction chars with
  | nil => exact .nil
  | cons char chars ih => exact .cons (isCharacter_utf8EncodeChar char) ih

/-- The bytes that are text are those of the texts. -/
theorem wellFormed_iff_exists {bytes : Bytes} :
    WellFormed bytes ↔ ∃ chars, bytes = encode chars := by
  constructor
  · intro wellFormed
    induction wellFormed with
    | nil => exact ⟨[], rfl⟩
    | cons head _ ih =>
      obtain ⟨char, rfl⟩ := isCharacter_iff_exists.mp head
      obtain ⟨chars, rfl⟩ := ih
      exact ⟨char :: chars, encode_cons char chars⟩
  · rintro ⟨chars, rfl⟩
    exact wellFormed_encode chars

theorem WellFormed.append {first second : Bytes} (wellFormed : WellFormed first)
    (wellFormed' : WellFormed second) : WellFormed (first ++ second) := by
  induction wellFormed with
  | nil => exact wellFormed'
  | cons head _ ih =>
    rw [List.append_assoc]
    exact .cons head ih

theorem wellFormed_of_isCharacter {bytes : Bytes} (character : IsCharacter bytes) :
    WellFormed bytes := by
  have alone := WellFormed.cons character .nil
  rwa [List.append_nil] at alone

/-- Text behind which text goes on: what is behind is text, too. -/
theorem WellFormed.of_append {first second : Bytes} (wellFormed : WellFormed first)
    (whole : WellFormed (first ++ second)) : WellFormed second := by
  obtain ⟨chars, rfl⟩ := wellFormed_iff_exists.mp wellFormed
  obtain ⟨all, same⟩ := wellFormed_iff_exists.mp whole
  have decoded := decode_encode all
  rw [← same, decode, decodeFrom_encode] at decoded
  obtain ⟨more, -, rfl⟩ := decodeFrom_eq_ok decoded
  exact wellFormed_encode more

/-- No character begins with another one. -/
theorem IsCharacter.eq_nil_of_append {char rest : Bytes} (character : IsCharacter char)
    (longer : IsCharacter (char ++ rest)) : rest = [] := by
  obtain ⟨first, rfl⟩ := isCharacter_iff_exists.mp character
  obtain ⟨second, same⟩ := isCharacter_iff_exists.mp longer
  have decoded := decode_encode [second]
  rw [encode_cons, encode, List.flatMap_nil, List.append_nil, ← same, decode,
    decodeFrom_encodeChar] at decoded
  obtain ⟨more, chars, rfl⟩ := decodeFrom_eq_ok decoded
  cases more with
  | nil => rfl
  | cons char more => simp at chars

/-! A byte below 128 is a character of its own, wherever it stands. -/

theorem IsCharacter.continues {first : UInt8} {rest : Bytes} (character : IsCharacter (first :: rest)) :
    ∀ byte ∈ rest, IsContinuation byte := by
  obtain ⟨least, code, form, -⟩ := character
  cases form with
  | one => exact nofun
  | two _ tail => simpa using tail
  | three _ next tail => simp [next, tail]
  | four _ next after tail => simp [next, after, tail]

theorem wellFormed_singleton {byte : UInt8} (ascii : byte.toNat < 0x80) : WellFormed [byte] :=
  wellFormed_of_isCharacter ((isCharacter_one_iff ascii).mpr rfl)

/-- What stands in front of a byte below 128 in a text is a text. -/
theorem WellFormed.of_append_ascii {front back : Bytes} {byte : UInt8} (ascii : byte.toNat < 0x80)
    (wellFormed : WellFormed (front ++ byte :: back)) : WellFormed front := by
  generalize whole : front ++ byte :: back = bytes at wellFormed
  induction wellFormed generalizing front with
  | nil => simp at whole
  | cons head _ ih =>
    rcases List.append_eq_append_iff.mp whole with ⟨more, rfl, behind⟩ | ⟨more, rfl, behind⟩
    · cases front with
      | nil => exact .nil
      | cons first front =>
        cases more with
        | nil =>
          rw [List.append_nil] at head
          exact wellFormed_of_isCharacter head
        | cons next more =>
          obtain ⟨rfl, -⟩ : byte = next ∧ _ := List.cons.inj behind
          have high : IsContinuation byte := head.continues byte (by simp)
          exact absurd high.1 (Nat.not_le.mpr ascii)
    · exact .cons head (ih behind.symm)

/-! Characters are counted by the bytes that begin them. -/

theorem IsCharacter.countP_eq {bytes : Bytes} (character : IsCharacter bytes) :
    bytes.countP (¬IsContinuation ·) = 1 := by
  have high {byte : UInt8} (head : 0xC0 ≤ byte.toNat) : ¬IsContinuation byte :=
    fun continues => absurd continues.2 (Nat.not_le.mpr head)
  obtain ⟨least, code, form, -⟩ := character
  cases form with
  | one head =>
    have first : ¬IsContinuation _ := fun continues => absurd continues.1 (Nat.not_le.mpr head)
    simp [first]
  | two head tail =>
    have first : ¬IsContinuation _ := high head.1
    simp [first, tail]
  | three head next tail =>
    have first : ¬IsContinuation _ := high (Nat.le_trans (by decide) head.1)
    simp [first, next, tail]
  | four head next after tail =>
    have first : ¬IsContinuation _ := high (Nat.le_trans (by decide) head.1)
    simp [first, next, after, tail]

theorem countP_encode (chars : List Char) :
    (encode chars).countP (¬IsContinuation ·) = chars.length := by
  induction chars with
  | nil => rfl
  | cons char chars ih =>
    rw [encode_cons, List.countP_append, (isCharacter_utf8EncodeChar char).countP_eq, ih,
      List.length_cons, Nat.add_comm]

end ScriptHost.Text
