/-!
Double precision numbers as their 64 bits. The program only compares and prints them, so both are
defined on the bits: a finite number is an integer times a power of two.
-/
namespace ScriptHost.Number

/-- A double precision number by its bits. -/
structure Binary64 where
  bits : UInt64
  deriving DecidableEq, Repr

namespace Binary64

def isNegative (number : Binary64) : Bool := Nat.pow 2 63 ≤ number.bits.toNat

/-- The eleven exponent bits. -/
def exponentField (number : Binary64) : Nat := number.bits.toNat / Nat.pow 2 52 % Nat.pow 2 11

/-- The 52 fraction bits. -/
def fractionField (number : Binary64) : Nat := number.bits.toNat % Nat.pow 2 52

def isFinite (number : Binary64) : Bool := number.exponentField < 2047

def isNaN (number : Binary64) : Bool :=
  number.exponentField == 2047 && number.fractionField != 0

def isZero (number : Binary64) : Bool := number.exponentField == 0 && number.fractionField == 0

/-- Numeric equality: a NaN equals nothing, the two zeros equal each other. -/
def equal (first second : Binary64) : Bool :=
  !first.isNaN && !second.isNaN && (first.bits == second.bits || (first.isZero && second.isZero))

/-- The integer factor of a finite number's magnitude. -/
def significand (number : Binary64) : Nat :=
  if number.exponentField = 0 then number.fractionField else number.fractionField + Nat.pow 2 52

/-- The power of two that multiplies the significand. -/
def scale (number : Binary64) : Int := (max number.exponentField 1 : Nat) - 1075

/-- Whether the gap to the next smaller magnitude is half the gap to the next larger one. -/
def atPowerOfTwo (number : Binary64) : Bool :=
  number.fractionField == 0 && 1 < number.exponentField

end Binary64

end ScriptHost.Number
