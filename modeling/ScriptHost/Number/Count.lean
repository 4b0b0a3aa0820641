/-!
Counts written as text: an optional plus sign and one or more digits, with a value below 2 to the
64. Blanks, signs of other kinds and separators are refused.
-/
namespace ScriptHost.Number

/-- The value of a digit in a base up to sixteen, letters in either case. -/
def digit? (base : Nat) (char : Char) : Option Nat :=
  let code := char.toNat
  let value :=
    if '0'.toNat ≤ code ∧ code ≤ '9'.toNat then some (code - '0'.toNat)
    else if 'a'.toNat ≤ code ∧ code ≤ 'f'.toNat then some (code - 'a'.toNat + 10)
    else if 'A'.toNat ≤ code ∧ code ≤ 'F'.toNat then some (code - 'A'.toNat + 10)
    else none
  value.filter (· < base)

/-- Read digits behind a number that is already read. -/
def digitsFrom (base : Nat) : (sofar : Nat) → List Char → Option Nat
  | sofar, [] => some sofar
  | sofar, char :: rest =>
    match digit? base char with
    | some value => digitsFrom base (sofar * base + value) rest
    | none => none

/-- One or more digits. -/
def digits? (base : Nat) (chars : List Char) : Option Nat :=
  if chars.isEmpty then none else digitsFrom base 0 chars

/-- The characters behind an optional plus sign. -/
def skipPlus : List Char → List Char
  | '+' :: rest => rest
  | chars => chars

/-- A count below 2 to the 64. -/
def count? (base : Nat) (chars : List Char) : Option Nat :=
  (digits? base (skipPlus chars)).filter (· < UInt64.size)

/-- A count in decimal digits. -/
def decimal? (text : String) : Option Nat := count? 10 text.toList

/-- A count in hexadecimal digits. -/
def hexadecimal? (text : String) : Option Nat := count? 16 text.toList

end ScriptHost.Number
