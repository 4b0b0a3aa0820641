/-!
The range of double precision numbers, asked of numbers written in decimal.
-/
namespace ScriptHost.Number

/-- The least integer that is rounded beyond the largest double precision number. -/
def beyondBinary64 : Nat := Nat.pow 2 1024 - Nat.pow 2 970

/-- Whether an integer times a power of ten is rounded to a finite double precision number. Only a
number of 309 digits before the point needs a comparison. -/
def isInRange (digits : Nat) (exponent : Int) : Bool :=
  let places := ((Nat.toDigits 10 digits).length : Int) + exponent
  if digits = 0 then true
  else if places < 309 then true
  else if 309 < places then false
  else digits * Nat.pow 10 exponent.toNat < beyondBinary64 * Nat.pow 10 (-exponent).toNat

/-- The nearest integer with at most 53 binary digits before its zeros; of two equally near the even
one. -/
def roundBinary64 (number : Nat) : Nat :=
  let unit := Nat.pow 2 (number.log2 + 1 - 53)
  let below := number / unit
  let rest := number % unit
  if unit < 2 * rest ∨ (unit = 2 * rest ∧ below % 2 = 1) then (below + 1) * unit else below * unit

/-- Put digits behind a number while it stays below 2 to the 64. The second result counts the digits
that are left. -/
def takeDigits (number : Nat) : List Nat → Nat × Nat
  | [] => (number, 0)
  | digit :: rest =>
    if number * 10 + digit < UInt64.size then takeDigits (number * 10 + digit) rest
    else (number, rest.length + 1)

/-- Whether a decimal stays finite when it is read in the quick way: the leading digits that fit 64
bits are rounded, multiplied with a rounded power of ten, and rounded again. -/
def isInQuickRange (whole fraction : List Nat) (exponent : Int) : Bool :=
  let (front, wholeLeft) := takeDigits 0 whole
  let (digits, fractionLeft) := takeDigits front fraction
  let places := exponent + wholeLeft - (fraction.length - fractionLeft : Nat)
  if digits = 0 ∨ places ≤ 0 then true
  else if 308 < places then false
  else roundBinary64 (roundBinary64 digits * roundBinary64 (Nat.pow 10 places.toNat)) < Nat.pow 2 1024

end ScriptHost.Number
