import ScriptHost.Json.Basic
import ScriptHost.Number.Count

/-!
The tokens of a JSON text. Blanks between tokens are dropped.
-/
namespace ScriptHost.Json

/-- A mark, or a document without parts. -/
inductive Token where
  | openBracket
  | closeBracket
  | openBrace
  | closeBrace
  | comma
  | colon
  | scalar (value : Json)
  deriving Repr

/-- The value of four hexadecimal digits. -/
def hexQuad? (a b c d : Char) : Option Nat := Number.digits? 16 [a, b, c, d]

/-- What a one-letter escape stands for. -/
def escaped? : Char → Option Char
  | '"' => some '"'
  | '\\' => some '\\'
  | '/' => some '/'
  | 'b' => some '\x08'
  | 'f' => some '\x0c'
  | 'n' => some '\n'
  | 'r' => some '\r'
  | 't' => some '\t'
  | _ => none

/-- A text being read: its characters in reverse, the first half of a surrogate pair if one was
just read, and whether some half stood alone. -/
structure OpenText where
  chars : List Char := []
  half : Option Nat := none
  broken : Bool := false

namespace OpenText

/-- Read on with a character. -/
def push (text : OpenText) (char : Char) : OpenText :=
  ⟨char :: text.chars, none, text.broken || text.half.isSome⟩

/-- Read on with a code unit of an escape. -/
def pushUnit (text : OpenText) (unit : Nat) : OpenText :=
  let isLow := 0xDC00 ≤ unit ∧ unit ≤ 0xDFFF
  match text.half with
  | some high =>
    if isLow then
      ⟨Char.ofNat (0x10000 + (high - 0xD800) * 0x400 + (unit - 0xDC00)) :: text.chars, none,
        text.broken⟩
    else if 0xD800 ≤ unit ∧ unit ≤ 0xDBFF then ⟨text.chars, some unit, true⟩
    else ⟨Char.ofNat unit :: text.chars, none, true⟩
  | none =>
    if isLow then { text with broken := true }
    else if 0xD800 ≤ unit ∧ unit ≤ 0xDBFF then { text with half := some unit }
    else text.push (Char.ofNat unit)

/-- The text that was read, if no half stood alone. -/
def close (text : OpenText) : Option String :=
  if text.broken || text.half.isSome then none else some (String.ofList text.chars.reverse)

end OpenText

/-- Read a text behind its opening quote, up to and with the closing one. -/
def readText (text : OpenText) : List Char → Option (Option String × List Char)
  | [] => none
  | '"' :: rest => some (text.close, rest)
  | '\\' :: 'u' :: a :: b :: c :: d :: rest =>
    match hexQuad? a b c d with
    | some unit => readText (text.pushUnit unit) rest
    | none => none
  | '\\' :: mark :: rest =>
    match escaped? mark with
    | some char => readText (text.push char) rest
    | none => none
  | char :: rest => if char.toNat < 0x20 then none else readText (text.push char) rest

theorem length_of_readText {text : OpenText} {chars rest : List Char} {read : Option String}
    (found : readText text chars = some (read, rest)) : rest.length < chars.length := by
  fun_induction readText text chars <;> simp_all <;> omega

/-- The digits at the front and what follows them. -/
def spanDigits (chars : List Char) : List Char × List Char :=
  (chars.takeWhile (·.isDigit), chars.dropWhile (·.isDigit))

theorem length_of_spanDigits (chars : List Char) :
    (spanDigits chars).1.length + (spanDigits chars).2.length = chars.length := by
  rw [spanDigits, ← List.length_append, List.takeWhile_append_dropWhile]

/-- The value of a decimal digit. -/
def digitOf (digit : Char) : Nat := digit.toNat - '0'.toNat

/-- The number that decimal digits spell. -/
def natOfDigits (digits : List Char) : Nat :=
  digits.foldl (fun number digit => number * 10 + digitOf digit) 0

/-- Read the digits of an exponent behind its sign. -/
def readExponentDigits (negative : Bool) (chars : List Char) : Option (Option Int × List Char) :=
  match spanDigits chars with
  | ([], _) => none
  | (digits, rest) =>
    let size : Int := natOfDigits digits
    some (some (if negative then -size else size), rest)

/-- Read the exponent of a number, if there is one. -/
def readExponent : List Char → Option (Option Int × List Char)
  | 'e' :: '-' :: rest | 'E' :: '-' :: rest => readExponentDigits true rest
  | 'e' :: '+' :: rest | 'E' :: '+' :: rest => readExponentDigits false rest
  | 'e' :: rest | 'E' :: rest => readExponentDigits false rest
  | rest => some (none, rest)

/-- Read the fraction of a number, if there is one. -/
def readFraction : List Char → Option (Option (List Char) × List Char)
  | '.' :: rest =>
    match spanDigits rest with
    | ([], _) => none
    | (digits, rest) => some (some digits, rest)
  | rest => some (none, rest)

/-- Read the digits before the point; a zero stands alone there. -/
def readWhole (chars : List Char) : Option (List Char × List Char) :=
  match spanDigits chars with
  | ([], _) => none
  | ('0' :: _ :: _, _) => none
  | span => some span

/-- Read a number behind its sign. -/
def readNumeral (negative : Bool) (chars : List Char) : Option (Numeral × List Char) :=
  (readWhole chars).bind fun (whole, afterWhole) =>
    (readFraction afterWhole).bind fun (fraction, afterFraction) =>
      (readExponent afterFraction).map fun (exponent, rest) =>
        (⟨negative, natOfDigits whole, (fraction.getD []).map digitOf, exponent⟩, rest)

theorem length_of_readExponentDigits {negative : Bool} {chars rest : List Char}
    {exponent : Option Int} (found : readExponentDigits negative chars = some (exponent, rest)) :
    rest.length ≤ chars.length := by
  have total := length_of_spanDigits chars
  unfold readExponentDigits at found
  split at found
  · simp at found
  · rename_i span
    simp only [Option.some.injEq, Prod.mk.injEq] at found
    rw [span] at total
    rw [← found.2]
    simp only at total; omega

theorem length_of_readExponent {chars rest : List Char} {exponent : Option Int}
    (found : readExponent chars = some (exponent, rest)) : rest.length ≤ chars.length := by
  unfold readExponent at found
  split at found
  all_goals first
    | (have shorter := length_of_readExponentDigits found; simp only [List.length_cons]; omega)
    | (simp only [Option.some.injEq, Prod.mk.injEq] at found; simp [found.2])

theorem length_of_readFraction {chars rest : List Char} {fraction : Option (List Char)}
    (found : readFraction chars = some (fraction, rest)) : rest.length ≤ chars.length := by
  unfold readFraction at found
  split at found
  · rename_i behind
    have total := length_of_spanDigits behind
    split at found
    · simp at found
    · rename_i span
      simp only [Option.some.injEq, Prod.mk.injEq] at found
      rw [span] at total
      simp only [found.2] at total
      simp only [List.length_cons]; omega
  · simp only [Option.some.injEq, Prod.mk.injEq] at found
    simp [found.2]

theorem length_of_readWhole {chars whole rest : List Char}
    (found : readWhole chars = some (whole, rest)) : rest.length < chars.length := by
  have total := length_of_spanDigits chars
  unfold readWhole at found
  split at found
  · simp at found
  · simp at found
  · rename_i span nonempty _
    simp only [Option.some.injEq] at found
    rw [found] at total nonempty
    have : 0 < whole.length := by
      cases whole with
      | nil => exact absurd rfl (nonempty rest)
      | cons => simp
    simp only at total; omega

theorem length_of_readNumeral {negative : Bool} {chars rest : List Char} {numeral : Numeral}
    (found : readNumeral negative chars = some (numeral, rest)) : rest.length < chars.length := by
  simp only [readNumeral, Option.bind_eq_some_iff, Option.map_eq_some_iff, Prod.exists,
    Prod.mk.injEq] at found
  obtain ⟨whole, afterWhole, wholeFound, fraction, afterFraction, fractionFound, exponent, behind,
    exponentFound, -, rfl⟩ := found
  have := length_of_readWhole wholeFound
  have := length_of_readFraction fractionFound
  have := length_of_readExponent exponentFound
  omega

/-- Whether a character may stand between tokens. -/
def isSpace (char : Char) : Bool :=
  char == ' ' || char == '\n' || char == '\t' || char == '\r'

/-- Read one token. -/
def readToken : List Char → Option (Token × List Char)
  | [] => none
  | '[' :: rest => some (.openBracket, rest)
  | ']' :: rest => some (.closeBracket, rest)
  | '{' :: rest => some (.openBrace, rest)
  | '}' :: rest => some (.closeBrace, rest)
  | ',' :: rest => some (.comma, rest)
  | ':' :: rest => some (.colon, rest)
  | '"' :: rest => (readText {} rest).map fun (text, rest) => (.scalar (.string text), rest)
  | 't' :: 'r' :: 'u' :: 'e' :: rest => some (.scalar (.bool true), rest)
  | 'f' :: 'a' :: 'l' :: 's' :: 'e' :: rest => some (.scalar (.bool false), rest)
  | 'n' :: 'u' :: 'l' :: 'l' :: rest => some (.scalar .null, rest)
  | '-' :: rest =>
    (readNumeral true rest).map fun (numeral, rest) => (.scalar (.number numeral), rest)
  | chars => (readNumeral false chars).map fun (numeral, rest) => (.scalar (.number numeral), rest)

theorem length_of_readToken {chars rest : List Char} {token : Token}
    (found : readToken chars = some (token, rest)) : rest.length < chars.length := by
  unfold readToken at found
  split at found
  all_goals first
    | simp only [Option.map_eq_some_iff, Option.some.injEq, Prod.mk.injEq, Prod.exists] at found
    | cases found
  all_goals first
    | (obtain ⟨_, _, inner, -, rfl⟩ := found
       first
         | (have shorter := length_of_readText inner; simp only [List.length_cons]; omega)
         | (have shorter := length_of_readNumeral inner; simp only [List.length_cons]; omega)
         | exact length_of_readNumeral inner)
    | (rw [← found.2]; simp only [List.length_cons]; omega)

/-- All tokens of a text. -/
def tokens (chars : List Char) : Option (List Token) :=
  match chars with
  | [] => some []
  | char :: rest =>
    if isSpace char then tokens rest
    else match _ : readToken (char :: rest) with
      | some (token, behind) => (tokens behind).map (token :: ·)
      | none => none
  termination_by chars.length
  decreasing_by
    · simp
    · exact length_of_readToken ‹_›

end ScriptHost.Json
