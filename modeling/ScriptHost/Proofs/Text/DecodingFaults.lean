import Mathlib.Order.Bounds.Defs
import ScriptHost.Proofs.Text.WellFormed

/-! Where bytes that are no text go wrong. Decoding fails behind the longest text in front, and tells
bytes that some more would complete from bytes that are lost. -/
namespace ScriptHost.Text

/-! What the decoder knows of a character that it has begun. -/

/-- The bytes that may follow in a character: one within the bounds, and then continuation bytes
until all are there. -/
def Partial.Admits (current : Partial) : Bytes → Prop
  | [] => False
  | byte :: rest => (current.low ≤ byte.toNat ∧ byte.toNat ≤ current.high) ∧
      rest.length + 1 = current.owed ∧ ∀ next ∈ rest, IsContinuation next

/-- The bytes are the beginning of a character, and the decoder knows how it may go on. -/
structure Begun (seen : Bytes) (current : Partial) : Prop where
  some : seen ≠ []
  taken : current.taken = seen.length
  owed : 0 < current.owed
  bounds : current.low ≤ current.high ∧ current.high < 256
  goesOn : ∀ more, IsCharacter (seen ++ more) ↔ current.Admits more

/-- The first byte of a character tells what may follow it. -/
inductive Leads (first : UInt8) : Lead → Prop where
  | single (alone : ∀ more, IsCharacter (first :: more) ↔ more = []) :
      Leads first (.single char)
  | opens (begun : Begun [first] current) : Leads first (.opens current)
  | none (outside : ∀ more, ¬IsCharacter (first :: more)) : Leads first .none

theorem leads_lead (first : UInt8) : Leads first (lead first.toNat) := by
  by_cases ascii : first.toNat < 0x80
  · rw [lead, if_pos ascii]
    exact .single fun _ => isCharacter_one_iff ascii
  · by_cases outside : first.toNat < 0xC2 ∨ 0xF5 ≤ first.toNat
    · rw [lead_of_none (by omega)]
      exact .none fun _ => not_isCharacter (by omega)
    · by_cases two : first.toNat < 0xE0
      · rw [lead_of_two (by omega) two]
        refine .opens ⟨List.cons_ne_nil _ _, rfl, Nat.one_pos, by simp, fun more => ?_⟩
        rw [List.singleton_append, isCharacter_two_iff (by omega) two]
        rcases more with _ | ⟨second, _ | ⟨third, more⟩⟩ <;>
          simp [Partial.Admits, IsContinuation]
      · by_cases three : first.toNat < 0xF0
        · rw [lead_of_three (by omega) three]
          refine .opens ⟨List.cons_ne_nil _ _, rfl, Nat.two_pos, ?_, fun more => ?_⟩
          · dsimp only
            split <;> split <;> omega
          rw [List.singleton_append, isCharacter_three_iff (by omega) three]
          rcases more with _ | ⟨second, _ | ⟨third, _ | ⟨fourth, more⟩⟩⟩ <;>
            simp [Partial.Admits, and_assoc]
        · rw [lead_of_four (by omega) (by omega)]
          refine .opens ⟨List.cons_ne_nil _ _, rfl, by simp, ?_, fun more => ?_⟩
          · dsimp only
            split <;> split <;> omega
          rw [List.singleton_append, isCharacter_four_iff (by omega) (by omega)]
          rcases more with _ | ⟨second, _ | ⟨third, _ | ⟨fourth, _ | ⟨fifth, more⟩⟩⟩⟩ <;>
            simp [Partial.Admits, and_assoc]

theorem Begun.cons {seen : Bytes} {current : Partial} {byte : UInt8}
    (begun : Begun seen current) (bounds : current.low ≤ byte.toNat ∧ byte.toNat ≤ current.high)
    (more : ¬current.owed ≤ 1) :
    Begun (seen ++ [byte]) ⟨current.taken + 1, current.owed - 1, 0x80, 0xBF,
      current.code * 64 + (byte.toNat - 0x80)⟩ where
  some := by simp
  taken := by simp [begun.taken]
  owed := by dsimp only; omega
  bounds := by simp
  goesOn rest := by
    rw [List.append_assoc, List.singleton_append, begun.goesOn]
    cases rest with
    | nil => simp [Partial.Admits]; omega
    | cons next rest =>
      have count : rest.length + 1 + 1 = current.owed ↔ rest.length + 1 = current.owed - 1 := by
        omega
      simp [Partial.Admits, IsContinuation, bounds, count, and_left_comm]

theorem Begun.isCharacter {seen : Bytes} {current : Partial} {byte : UInt8}
    (begun : Begun seen current) (bounds : current.low ≤ byte.toNat ∧ byte.toNat ≤ current.high)
    (last : current.owed ≤ 1) : IsCharacter (seen ++ [byte]) := by
  have owed := begun.owed
  refine (begun.goesOn [byte]).mpr ⟨bounds, ?_, nofun⟩
  rw [List.length_nil]
  omega

theorem Begun.not_isCharacter {seen : Bytes} {current : Partial} {byte : UInt8}
    (begun : Begun seen current) (outside : ¬(current.low ≤ byte.toNat ∧ byte.toNat ≤ current.high))
    (rest : Bytes) : ¬IsCharacter (seen ++ byte :: rest) := by
  rw [begun.goesOn]
  exact fun admits => outside admits.1

/-- A character that is begun can be completed. -/
theorem Begun.exists_isCharacter {seen : Bytes} {current : Partial} (begun : Begun seen current) :
    ∃ more, more ≠ [] ∧ IsCharacter (seen ++ more) := by
  have owed := begun.owed
  have ⟨order, small⟩ := begun.bounds
  refine ⟨UInt8.ofNat current.low :: List.replicate (current.owed - 1) 0x80, by simp, ?_⟩
  have byte : (UInt8.ofNat current.low).toNat = current.low :=
    UInt8.toNat_ofNat_of_lt' (Nat.lt_of_le_of_lt order small)
  refine (begun.goesOn _).mpr ⟨by omega, ?_, ?_⟩
  · rw [List.length_replicate]
    omega
  · intro next member
    rw [List.eq_of_mem_replicate member]
    decide

/-! Where decoding fails. -/

/-- The bytes are the beginning of a character, of which some are missing. -/
def IsBeginning (bytes : Bytes) : Prop := ∃ more, more ≠ [] ∧ IsCharacter (bytes ++ more)

/-- Why no character stands in front of bytes that begin at an index: they end too early, or they
are the beginning of a character only up to some byte. -/
inductive Stuck (index : Nat) : Bytes → Utf8Error → Prop where
  | incomplete (some : bytes ≠ []) (beginning : IsBeginning bytes) :
      Stuck index bytes (.incomplete index)
  | invalid (beginning : IsBeginning seen)
      (lost : ∀ more, ¬IsCharacter (seen ++ byte :: more)) :
      Stuck index (seen ++ byte :: rest) (.invalid (max 1 seen.length) index)

/-- What is read of a character, for what the decoder knows of it. -/
def Seen (seen : Bytes) : Option Partial → Prop
  | none => seen = []
  | some current => Begun seen current

theorem isBeginning_nil : IsBeginning [] :=
  ⟨String.utf8EncodeChar 'a', String.utf8EncodeChar_ne_nil, isCharacter_utf8EncodeChar 'a'⟩

private theorem seen_nil : Seen [] none := rfl

/-- Decoding fails behind a text, at bytes in front of which no character stands. -/
theorem exists_stuck {seen bytes : Bytes} {pending : Option Partial} {index : Nat}
    {done : List Char} {error : Utf8Error} (known : Seen seen pending)
    (failed : decodeFrom index done pending bytes = .error error) :
    ∃ front tail, seen ++ bytes = front ++ tail ∧ WellFormed front ∧
      Stuck (index + front.length) tail error := by
  induction bytes generalizing seen pending index done with
  | nil =>
    cases pending with
    | none => cases failed
    | some current =>
      obtain rfl : Utf8Error.incomplete index = error := Except.error.inj failed
      have begun : Begun seen current := known
      refine ⟨[], seen, List.append_nil seen, .nil, ?_⟩
      exact .incomplete begun.some begun.exists_isCharacter
  | cons byte rest ih =>
    cases pending with
    | none =>
      obtain rfl : seen = [] := known
      rw [decodeFrom] at failed
      have leads := leads_lead byte
      generalize lead byte.toNat = meaning at leads failed
      cases leads with
      | single alone =>
        obtain ⟨front, tail, same, wellFormed, stuck⟩ := ih seen_nil failed
        have character : IsCharacter [byte] := (alone []).mpr rfl
        refine ⟨[byte] ++ front, tail, congrArg (byte :: ·) same, .cons character wellFormed, ?_⟩
        rwa [List.length_append, List.length_singleton, ← Nat.add_assoc]
      | opens begun =>
        have known : Seen [byte] (some _) := begun
        exact ih known failed
      | none outside =>
        obtain rfl : Utf8Error.invalid 1 index = error := Except.error.inj failed
        have stuck : Stuck index ([] ++ byte :: rest) (.invalid 1 index) :=
          .invalid isBeginning_nil outside
        exact ⟨[], byte :: rest, rfl, .nil, stuck⟩
    | some current =>
      have begun : Begun seen current := known
      rw [decodeFrom] at failed
      by_cases bounds : current.low ≤ byte.toNat ∧ byte.toNat ≤ current.high
      · rw [if_pos bounds] at failed
        by_cases last : current.owed ≤ 1
        · obtain ⟨front, tail, same, wellFormed, stuck⟩ :=
            ih seen_nil ((if_pos last).symm.trans failed)
          refine ⟨seen ++ [byte] ++ front, tail, ?_,
            .cons (begun.isCharacter bounds last) wellFormed, ?_⟩
          · simpa using same
          · rw [List.length_append, List.length_append, List.length_singleton, ← begun.taken]
            rwa [← Nat.add_assoc, ← Nat.add_assoc]
        · have known : Seen (seen ++ [byte]) (some _) := begun.cons bounds last
          obtain ⟨front, tail, same, split⟩ := ih known ((if_neg last).symm.trans failed)
          rw [List.append_assoc, List.singleton_append] at same
          exact ⟨front, tail, same, split⟩
      · rw [if_neg bounds] at failed
        obtain rfl : Utf8Error.invalid current.taken index = error := Except.error.inj failed
        have length : current.taken = max 1 seen.length := by
          have := List.length_pos_iff.mpr begun.some
          rw [begun.taken]
          omega
        refine ⟨[], seen ++ byte :: rest, rfl, .nil, ?_⟩
        rw [length]
        exact .invalid begun.exists_isCharacter (begun.not_isCharacter bounds)

theorem Stuck.not_isCharacter {index : Nat} {bytes char rest : Bytes} {error : Utf8Error}
    (stuck : Stuck index bytes error) (front : bytes = char ++ rest) : ¬IsCharacter char := by
  intro character
  -- A character of which more is missing is none yet.
  have whole {seen : Bytes} (beginning : IsBeginning seen) (rest : Bytes) : seen ≠ char ++ rest := by
    rintro rfl
    obtain ⟨more, some, longer⟩ := beginning
    rw [List.append_assoc] at longer
    exact some (List.append_eq_nil_iff.mp (character.eq_nil_of_append longer)).2
  cases stuck with
  | incomplete _ beginning => exact whole beginning rest front
  | invalid beginning lost =>
    rcases List.append_eq_append_iff.mp front with ⟨more, longer, behind⟩ | ⟨more, shorter, -⟩
    · cases more with
      | nil => exact whole beginning [] (by rw [longer, List.append_nil, List.append_nil])
      | cons next more =>
        obtain ⟨rfl, -⟩ := List.cons.inj behind
        exact lost more (longer ▸ character)
    · exact whole beginning more shorter

/-- Why bytes are no text, with nothing said of how they are read. -/
inductive Utf8Error.Explains (bytes : Bytes) : Utf8Error → Prop where
  | incomplete (longest : IsGreatest {n | n ≤ bytes.length ∧ WellFormed (bytes.take n)} index)
      (completed : ∃ more, WellFormed (bytes ++ more)) :
      Explains bytes (.incomplete index)
  | invalid (longest : IsGreatest {n | n ≤ bytes.length ∧ WellFormed (bytes.take n)} index)
      (lost : ¬∃ more, WellFormed (bytes ++ more))
      (begun : IsGreatest {n | n ≤ (bytes.drop index).length ∧
        ∃ more, IsCharacter ((bytes.drop index).take n ++ more)} length) :
      Explains bytes (.invalid (max 1 length) index)

theorem WellFormed.exists_character {bytes : Bytes} (wellFormed : WellFormed bytes)
    (some : bytes ≠ []) : ∃ char rest, bytes = char ++ rest ∧ IsCharacter char := by
  cases wellFormed with
  | nil => contradiction
  | cons head _ => exact ⟨_, _, rfl, head⟩

/-- Text in front of bytes that do not begin with a character is all the text in front. -/
theorem isGreatest_of_stuck {front tail : Bytes} {error : Utf8Error} {index : Nat}
    (wellFormed : WellFormed front) (stuck : Stuck index tail error) :
    IsGreatest {n | n ≤ (front ++ tail).length ∧ WellFormed ((front ++ tail).take n)}
      front.length := by
  refine ⟨⟨by simp, ?_⟩, ?_⟩
  · rwa [List.take_left]
  · rintro count ⟨within, taken⟩
    refine Nat.le_of_not_lt fun longer => ?_
    rw [List.take_append, List.take_of_length_le (Nat.le_of_lt longer)] at taken
    have some : tail.take (count - front.length) ≠ [] := by
      rw [List.length_append] at within
      rw [← List.length_pos_iff, List.length_take]
      omega
    obtain ⟨char, rest, same, character⟩ := (wellFormed.of_append taken).exists_character some
    have split : tail = char ++ (rest ++ tail.drop (count - front.length)) := by
      rw [← List.append_assoc, ← same, List.take_append_drop]
    exact stuck.not_isCharacter split character

theorem Stuck.not_wellFormed {index : Nat} {bytes : Bytes} {error : Utf8Error}
    (stuck : Stuck index bytes error) : ¬WellFormed bytes := by
  intro wellFormed
  have some : bytes ≠ [] := by
    cases stuck with
    | incomplete some _ => exact some
    | invalid _ _ => simp
  obtain ⟨char, rest, same, character⟩ := wellFormed.exists_character some
  exact stuck.not_isCharacter same character

/-- Bytes that are the beginning of a character up to some byte are so up to no later one. -/
theorem isGreatest_of_lost {seen rest : Bytes} {byte : UInt8} (beginning : IsBeginning seen)
    (lost : ∀ more, ¬IsCharacter (seen ++ byte :: more)) :
    IsGreatest {n | n ≤ (seen ++ byte :: rest).length ∧
      ∃ more, IsCharacter ((seen ++ byte :: rest).take n ++ more)} seen.length := by
  obtain ⟨more, -, character⟩ := beginning
  refine ⟨⟨by simp, more, ?_⟩, ?_⟩
  · rwa [List.take_left]
  · rintro count ⟨-, more, character⟩
    refine Nat.le_of_not_lt fun longer => ?_
    obtain ⟨extra, rfl⟩ := Nat.exists_eq_add_of_lt longer
    have taken : (seen ++ byte :: rest).take (seen.length + extra + 1) =
        seen ++ byte :: rest.take extra := by
      rw [Nat.add_assoc, List.take_length_add_append, List.take_succ_cons]
    rw [taken, List.append_assoc] at character
    exact lost _ character

/-- Decoding fails for the reason that the bytes give. -/
theorem explains_of_decode {bytes : Bytes} {error : Utf8Error}
    (failed : decode bytes = .error error) : error.Explains bytes := by
  obtain ⟨front, tail, rfl, wellFormed, stuck⟩ := exists_stuck seen_nil failed
  have longest := isGreatest_of_stuck wellFormed stuck
  rw [Nat.zero_add] at stuck
  cases stuck with
  | incomplete _ beginning =>
    obtain ⟨more, _, character⟩ := beginning
    refine .incomplete longest ⟨more, ?_⟩
    change WellFormed (front ++ tail ++ more)
    rw [List.append_assoc]
    exact wellFormed.append (wellFormed_of_isCharacter character)
  | @invalid seen byte rest beginning lost =>
    refine .invalid longest ?_ ?_
    · rintro ⟨more, completed⟩
      change WellFormed (front ++ (seen ++ byte :: rest) ++ more) at completed
      rw [List.append_assoc, List.append_assoc] at completed
      -- Whatever is appended, decoding is stuck at the same byte.
      have stuck : Stuck front.length (seen ++ byte :: (rest ++ more))
          (.invalid (max 1 seen.length) front.length) := .invalid beginning lost
      exact stuck.not_wellFormed (wellFormed.of_append completed)
    · rw [List.drop_left]
      exact isGreatest_of_lost beginning lost

end ScriptHost.Text
