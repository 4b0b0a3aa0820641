import ScriptHost.Number.Binary64

/-!
Decimal text of a double. An integral number is written out exactly with one zero behind the
point. Any other gets the fewest digits that read back as the same number, of several such the
nearest, and of two equally near the greater.
-/
namespace ScriptHost.Number

/-- A decimal number: an integer times a power of ten. -/
structure Decimal where
  digits : Nat
  exponent : Int
  deriving DecidableEq, Repr

/-- A power with an integer exponent as numerator and denominator. -/
def ratio (base : Nat) (exponent : Int) : Nat × Nat :=
  (Nat.pow base exponent.toNat, Nat.pow base (-exponent).toNat)

/-- The reals that read back as one number, in units of 2 to the power `unit`: from `low` through
`value` to `high`, the ends included if `closed`. -/
structure Interval where
  unit : Int
  low : Nat
  value : Nat
  high : Nat
  closed : Bool
  deriving DecidableEq, Repr

/-- The interval of a finite number that is not zero. -/
def Interval.of (number : Binary64) : Interval :=
  let value := 4 * number.significand
  { unit := number.scale - 2
    low := value - if number.atPowerOfTwo then 1 else 2
    value
    high := value + 2
    closed := number.significand % 2 == 0 }

/-- The multiple of 10 to the power `exponent` that lies in the interval nearest to its value. -/
def Interval.onGrid? (interval : Interval) (exponent : Int) : Option Decimal :=
  let (twos, twosBelow) := ratio 2 interval.unit
  let (tens, tensBelow) := ratio 10 exponent
  let denominator := twosBelow * tens
  let scaled := fun units : Nat => units * twos * tensBelow
  let inside := fun steps : Nat =>
    let point := steps * denominator
    if interval.closed then
      scaled interval.low ≤ point && point ≤ scaled interval.high
    else scaled interval.low < point && point < scaled interval.high
  let below := scaled interval.value / denominator
  let rest := scaled interval.value % denominator
  match inside below, inside (below + 1) with
  | true, true => some ⟨if denominator ≤ 2 * rest then below + 1 else below, exponent⟩
  | true, false => some ⟨below, exponent⟩
  | false, true => some ⟨below + 1, exponent⟩
  | false, false => none

/-- A power of ten above the number. -/
def Interval.ceiling (interval : Interval) : Int :=
  ((interval.high.log2 + 1 : Nat) + interval.unit) * 30103 / 100000 + 2

/-- The coarsest decimal grid with a point in the interval gives the fewest digits. Seventeen
digits always suffice. -/
def Interval.shortest (interval : Interval) : Decimal :=
  ((List.range 24).findSome? fun (step : Nat) => interval.onGrid? (interval.ceiling - step)).getD
    ⟨interval.value, interval.unit⟩

/-- Decimal digits of a decimal number, never with an exponent. -/
def Decimal.text (decimal : Decimal) : String :=
  let digits := toString decimal.digits
  let places := (-decimal.exponent).toNat
  if places = 0 then digits ++ String.ofList (List.replicate decimal.exponent.toNat '0')
  else
    let chars := List.replicate (places + 1 - digits.length) '0' ++ digits.toList
    let whole := chars.length - places
    String.ofList (chars.take whole ++ '.' :: chars.drop whole)

/-- The exact magnitude of a finite integral number. -/
def Binary64.integral? (number : Binary64) : Option Nat :=
  let (twos, twosBelow) := ratio 2 number.scale
  if number.significand * twos % twosBelow = 0 then
    some (number.significand * twos / twosBelow)
  else none

/-- The decimal text of a number. -/
def Binary64.text (number : Binary64) : String :=
  let sign := if number.isNegative then "-" else ""
  if number.isNaN then "NaN"
  else if !number.isFinite then sign ++ "inf"
  else match number.integral? with
    | some whole => s!"{sign}{whole}.0"
    | none => sign ++ (Interval.of number).shortest.text

end ScriptHost.Number
