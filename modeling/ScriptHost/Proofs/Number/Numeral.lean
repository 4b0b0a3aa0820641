import Mathlib.Data.List.Forall2
import Mathlib.Data.Nat.Digits.Defs
import ScriptHost.Number.Count

/-! Numerals as they are written, apart from any reader. A count is read exactly off the numerals of
values below 2 to the 64, and every number that is printed is a numeral of itself. -/
namespace ScriptHost.Number

/-- A digit of a base up to sixteen, letters in either case. -/
def IsDigit (base : Nat) (char : Char) (value : Nat) : Prop :=
  value < base ∧ (value < 10 ∧ char.toNat = '0'.toNat + value ∨
    10 ≤ value ∧ value < 16 ∧
      (char.toNat + 10 = 'a'.toNat + value ∨ char.toNat + 10 = 'A'.toNat + value))

/-- An optional plus sign and one or more digits, the highest first. -/
def Numeral (base : Nat) (chars : List Char) (value : Nat) : Prop :=
  ∃ sign body digits, chars = sign ++ body ∧ (sign = [] ∨ sign = ['+']) ∧ body ≠ [] ∧
    List.Forall₂ (IsDigit base) body digits ∧ Nat.ofDigits base digits.reverse = value

theorem digit?_eq_some_iff {base value : Nat} {char : Char} :
    digit? base char = some value ↔ IsDigit base char value := by
  have zero : '0'.toNat = 48 := rfl
  have nine : '9'.toNat = 57 := rfl
  have a : 'a'.toNat = 97 := rfl
  have f : 'f'.toNat = 102 := rfl
  have capitalA : 'A'.toNat = 65 := rfl
  have capitalF : 'F'.toNat = 70 := rfl
  simp only [digit?, IsDigit, Option.filter_eq_some_iff, decide_eq_true_eq]
  constructor
  · intro numeral
    obtain ⟨read, below⟩ := numeral
    refine ⟨below, ?_⟩
    split at read
    · have := Option.some.inj read; omega
    · split at read
      · have := Option.some.inj read; omega
      · split at read
        · have := Option.some.inj read; omega
        · contradiction
  · intro numeral
    obtain ⟨below, digit⟩ := numeral
    refine ⟨?_, below⟩
    rcases digit with ⟨small, code⟩ | ⟨large, bound, code | code⟩
    · rw [if_pos (by omega)]
      congr 1
      omega
    · rw [if_neg (by omega), if_pos (by omega)]
      congr 1
      omega
    · rw [if_neg (by omega), if_neg (by omega), if_pos (by omega)]
      congr 1
      omega

theorem digitsFrom_eq_some_iff {base sofar value : Nat} {chars : List Char} :
    digitsFrom base sofar chars = some value ↔
      ∃ digits, List.Forall₂ (IsDigit base) chars digits ∧
        Nat.ofDigits base (digits.reverse ++ [sofar]) = value := by
  induction chars generalizing sofar with
  | nil =>
    simp only [digitsFrom, Option.some.injEq]
    constructor
    · intro same
      exact ⟨[], .nil, by simpa using same⟩
    · intro numeral
      obtain ⟨digits, spelled, same⟩ := numeral
      cases spelled
      simpa using same
  | cons char chars ih =>
    rw [digitsFrom]
    have shift (digits : List Nat) (digit : Nat) :
        Nat.ofDigits base (digits.reverse ++ [sofar * base + digit]) =
          Nat.ofDigits base ((digit :: digits).reverse ++ [sofar]) := by
      simp only [List.reverse_cons, List.append_assoc, Nat.ofDigits_append, Nat.ofDigits_cons,
        List.cons_append, List.nil_append, Nat.ofDigits_nil]
      ring
    constructor
    · intro read
      cases found : digit? base char with
      | none => simp [found] at read
      | some digit =>
        rw [found] at read
        obtain ⟨digits, spelled, same⟩ := ih.mp read
        exact ⟨digit :: digits, .cons (digit?_eq_some_iff.mp found) spelled,
          shift digits digit ▸ same⟩
    · intro numeral
      obtain ⟨digits, spelled, same⟩ := numeral
      cases spelled with
      | @cons _ digit _ digits first rest =>
        rw [digit?_eq_some_iff.mpr first]
        exact ih.mpr ⟨digits, rest, (shift digits digit).trans same⟩

theorem digits?_eq_some_iff {base value : Nat} {chars : List Char} :
    digits? base chars = some value ↔
      chars ≠ [] ∧ ∃ digits, List.Forall₂ (IsDigit base) chars digits ∧
        Nat.ofDigits base digits.reverse = value := by
  unfold digits?
  cases chars with
  | nil => simp
  | cons char chars =>
    rw [List.isEmpty_cons, if_neg Bool.false_ne_true, digitsFrom_eq_some_iff]
    simp [Nat.ofDigits_append]

theorem skipPlus_of_ne {char : Char} {chars : List Char} (different : char ≠ '+') :
    skipPlus (char :: chars) = char :: chars := by
  unfold skipPlus
  split
  · simp_all
  · rfl

theorem IsDigit.ne_plus {base value : Nat} {char : Char} (digit : IsDigit base char value) :
    char ≠ '+' := by
  intro same
  subst same
  have plus : '+'.toNat = 43 := rfl
  have zero : '0'.toNat = 48 := rfl
  have a : 'a'.toNat = 97 := rfl
  have capitalA : 'A'.toNat = 65 := rfl
  rcases digit with ⟨_, ⟨_, code⟩ | ⟨_, _, code | code⟩⟩ <;> omega

/-- A count is read off the numerals of values below 2 to the 64, and off nothing else. -/
theorem count?_eq_some_iff {base value : Nat} {chars : List Char} :
    count? base chars = some value ↔ Numeral base chars value ∧ value < UInt64.size := by
  rw [count?, Option.filter_eq_some_iff, decide_eq_true_eq, digits?_eq_some_iff]
  refine and_congr_left fun _ => ?_
  constructor
  · intro numeral
    obtain ⟨nonempty, digits, spelled, same⟩ := numeral
    cases chars with
    | nil => exact absurd rfl nonempty
    | cons char chars =>
      by_cases plus : char = '+'
      · subst plus
        exact ⟨['+'], chars, digits, rfl, .inr rfl, nonempty, spelled, same⟩
      · rw [skipPlus_of_ne plus] at nonempty spelled
        exact ⟨[], char :: chars, digits, rfl, .inl rfl, nonempty, spelled, same⟩
  · intro numeral
    rcases numeral with ⟨sign, body, digits, rfl, bare | plus, nonempty, spelled, same⟩
    · subst bare
      cases spelled with
      | nil => exact absurd rfl nonempty
      | cons first rest =>
        rw [List.nil_append, skipPlus_of_ne first.ne_plus]
        exact ⟨nonempty, _, .cons first rest, same⟩
    · subst plus
      exact ⟨nonempty, digits, spelled, same⟩

private theorem digit_of_mem {base : Nat} {chars : List Char} {digits : List Nat} {char : Char}
    (spelled : List.Forall₂ (IsDigit base) chars digits) (member : char ∈ chars) :
    ∃ digit, IsDigit base char digit := by
  induction spelled with
  | nil => contradiction
  | cons first _ ih =>
    rcases List.mem_cons.mp member with rfl | member
    · exact ⟨_, first⟩
    · exact ih member

/-- Numerals hold nothing but plus signs, digits and letters up to the last digit's. -/
theorem Numeral.code_of_mem {base value : Nat} {chars : List Char} {char : Char}
    (numeral : Numeral base chars value) (member : char ∈ chars) :
    char.toNat = 43 ∨ 48 ≤ char.toNat ∧ char.toNat ≤ 102 := by
  obtain ⟨sign, body, digits, rfl, signed, _, spelled, _⟩ := numeral
  rcases List.mem_append.mp member with inSign | inBody
  · rcases signed with rfl | rfl
    · contradiction
    · rw [List.mem_singleton.mp inSign]
      exact .inl rfl
  · obtain ⟨digit, digits⟩ := digit_of_mem spelled inBody
    have zero : '0'.toNat = 48 := rfl
    have a : 'a'.toNat = 97 := rfl
    have capitalA : 'A'.toNat = 65 := rfl
    rcases digits with ⟨_, ⟨_, code⟩ | ⟨_, _, code | code⟩⟩ <;> omega

theorem decimal?_eq_some_iff {text : String} {value : Nat} :
    decimal? text = some value ↔ Numeral 10 text.toList value ∧ value < UInt64.size :=
  count?_eq_some_iff

theorem hexadecimal?_eq_some_iff {text : String} {value : Nat} :
    hexadecimal? text = some value ↔ Numeral 16 text.toList value ∧ value < UInt64.size :=
  count?_eq_some_iff

theorem isDigit_digitChar {value : Nat} (small : value < 10) :
    IsDigit 10 value.digitChar value :=
  ⟨small, .inl ⟨small, Nat.toNat_digitChar_of_lt_ten small⟩⟩

private theorem spelled_toDigits (value : Nat) :
    ∃ digits, List.Forall₂ (IsDigit 10) (Nat.toDigits 10 value) digits ∧
      Nat.ofDigits 10 digits.reverse = value := by
  induction value using Nat.strongRecOn with
  | ind value ih =>
    by_cases small : value < 10
    · rw [Nat.toDigits_of_lt_base small]
      exact ⟨[value], .cons (isDigit_digitChar small) .nil, by simp⟩
    · obtain ⟨digits, spelled, same⟩ := ih (value / 10) (by omega)
      rw [Nat.toDigits_of_base_le (by decide) (by omega)]
      refine ⟨digits ++ [value % 10], ?_, ?_⟩
      · exact List.rel_append spelled (.cons (isDigit_digitChar (Nat.mod_lt _ (by decide))) .nil)
      · rw [List.reverse_append, List.reverse_singleton, List.singleton_append, Nat.ofDigits_cons,
          same]
        exact Nat.mod_add_div value 10

theorem digits?_toDigits (value : Nat) : digits? 10 (Nat.toDigits 10 value) = some value :=
  digits?_eq_some_iff.mpr ⟨Nat.toDigits_ne_nil, spelled_toDigits value⟩

private theorem digitChar_ne_zero : ∀ digit < 10, 0 < digit → Nat.digitChar digit ≠ '0' := by
  decide

/-- No zero stands in front of a number that is printed. -/
theorem head?_toDigits {number : Nat} (positive : 0 < number) :
    (Nat.toDigits 10 number).head? ≠ some '0' := by
  induction number using Nat.strongRecOn with
  | ind number ih =>
    by_cases small : number < 10
    · rw [Nat.toDigits_of_lt_base small, List.head?_cons]
      exact fun same => digitChar_ne_zero number small positive (Option.some.inj same)
    · rw [Nat.toDigits_of_base_le (by decide) (by omega),
        List.head?_append_of_ne_nil _ Nat.toDigits_ne_nil]
      exact ih (number / 10) (by omega) (by omega)

/-- A number that is printed is written as a numeral of itself. -/
theorem numeral_toString (value : Nat) : Numeral 10 (toString value).toList value := by
  obtain ⟨digits, spelled, same⟩ := spelled_toDigits value
  rw [Nat.toString_eq_ofList_toDigits, String.toList_ofList]
  exact ⟨[], Nat.toDigits 10 value, digits, rfl, .inl rfl, Nat.toDigits_ne_nil, spelled, same⟩

end ScriptHost.Number
