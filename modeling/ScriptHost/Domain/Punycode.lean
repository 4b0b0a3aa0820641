import ScriptHost.Text.Split

/-!
Labels in the letters of ASCII: the characters of ASCII come first, and behind a hyphen the others as
distances, each from the place and character before it. A distance is written in digits of base 36
whose bounds follow the distances so far.
-/
namespace ScriptHost.Domain

namespace Punycode

/-- The letter or digit of a number below 36. -/
def digitChar (digit : Nat) : Char :=
  if digit < 26 then Char.ofNat ('a'.toNat + digit) else Char.ofNat ('0'.toNat + (digit - 26))

/-- The number of a letter or digit. -/
def digit? (char : Char) : Option Nat :=
  if 'a' ≤ char ∧ char ≤ 'z' then some (char.toNat - 'a'.toNat)
  else if 'A' ≤ char ∧ char ≤ 'Z' then some (char.toNat - 'A'.toNat)
  else if '0' ≤ char ∧ char ≤ '9' then some (char.toNat - '0'.toNat + 26)
  else none

/-- The bound of the digit at a place: a smaller digit is the last one of its distance. -/
def threshold (bias place : Nat) : Nat := max 1 (min 26 (place - bias))

theorem threshold_pos (bias place : Nat) : 0 < threshold bias place := by
  unfold threshold; omega

/-- Divide a distance until it is small; the places that this takes are counted in `place`. -/
def settle (distance place : Nat) : Nat :=
  if 455 < distance then settle (distance / 35) (place + 36)
  else place + 36 * distance / (distance + 38)
  termination_by distance
  decreasing_by omega

/-- The bias for the next distance. -/
def adapt (distance count : Nat) (isFirst : Bool) : Nat :=
  let distance := if isFirst then distance / 700 else distance / 2
  settle (distance + distance / count) 0

/-- The digits of a distance from a place on. -/
def distanceDigits (bias place distance : Nat) : List Char :=
  let bound := threshold bias place
  if distance < bound then [digitChar distance]
  else digitChar (bound + (distance - bound) % (36 - bound)) ::
    distanceDigits bias (place + 36) ((distance - bound) / (36 - bound))
  termination_by distance
  decreasing_by
    have := threshold_pos bias place
    exact Nat.lt_of_le_of_lt (Nat.div_le_self _ _) (by omega)

/-- Where a writer stands. -/
structure Progress where
  output : List Char := []
  distance : Nat := 0
  bias : Nat := 72
  /-- How many characters are written. -/
  written : Nat

/-- Pass one character of the label while those of one code point are written. -/
def Progress.pass (basics code : Nat) (progress : Progress) (char : Char) : Progress :=
  if char.toNat < code then { progress with distance := progress.distance + 1 }
  else if char.toNat = code then
    { output := progress.output ++ distanceDigits progress.bias 36 progress.distance
      distance := 0
      bias := adapt progress.distance (progress.written + 1) (progress.written == basics)
      written := progress.written + 1 }
  else progress

/-- Put a number into an ascending list, unless it is there. -/
def insertCode (code : Nat) : List Nat → List Nat
  | [] => [code]
  | next :: rest =>
    if code < next then code :: next :: rest
    else if code = next then next :: rest
    else next :: insertCode code rest

/-- Write the characters of all code points that are left, in ascending order. -/
def writeCodes (label : List Char) (basics : Nat) (next : Nat) (progress : Progress) :
    List Nat → List Char
  | [] => progress.output
  | code :: rest =>
    let ahead := { progress with
      distance := progress.distance + (code - next) * (progress.written + 1) }
    let behind := label.foldl (Progress.pass basics code) ahead
    writeCodes label basics (code + 1) { behind with distance := behind.distance + 1 } rest

/-- Write a label. -/
def encode (label : List Char) : List Char :=
  let basics := label.filter (·.toNat < 0x80)
  let codes := (label.filter (0x80 ≤ ·.toNat)).foldr (fun char => insertCode char.toNat) []
  basics ++ (if basics.isEmpty then [] else ['-']) ++
    writeCodes label basics.length 0x80 { written := basics.length } codes

/-- A number below 2 to the 32; greater ones are refused. -/
def word? (number : Nat) : Option Nat := if number < UInt32.size then some number else none

/-- Read the digits of a distance onto a number. -/
def readDistance (bias place weight sofar : Nat) : List Char → Option (Nat × List Char)
  | [] => none
  | char :: rest => do
    let digit ← digit? char
    let sofar ← word? (sofar + (← word? (digit * weight)))
    let bound := threshold bias place
    if digit < bound then return (sofar, rest)
    else readDistance bias (place + 36) (← word? (weight * (36 - bound))) sofar rest

theorem length_of_readDistance {bias place weight sofar sum : Nat} {chars rest : List Char}
    (found : readDistance bias place weight sofar chars = some (sum, rest)) :
    rest.length < chars.length := by
  induction chars generalizing place weight sofar with
  | nil => simp [readDistance] at found
  | cons char chars ih =>
    simp only [readDistance, Option.bind_eq_bind, Option.bind_eq_some_iff] at found
    obtain ⟨digit, -, product, -, total, -, found⟩ := found
    split at found
    · simp only [pure, Option.some.injEq, Prod.mk.injEq] at found
      simp [found.2]
    · simp only [Option.bind_eq_some_iff] at found
      obtain ⟨next, -, found⟩ := found
      have := ih found
      simp only [List.length_cons]; omega

/-- Read the distances behind what is already read; `place` is where the next one counts from. -/
def readCodes (bias code place : Nat) (label chars : List Char) : Option (List Char) :=
  match chars with
  | [] => some label
  | char :: rest =>
    match _ : readDistance bias 36 1 place (char :: rest) with
    | none => none
    | some (sum, behind) =>
      let count := label.length + 1
      let code := code + sum / count
      let spot := sum % count
      if code.isValidChar then
        readCodes (adapt (sum - place) count (place == 0)) code (spot + 1)
          (label.take spot ++ Char.ofNat code :: label.drop spot) behind
      else none
  termination_by chars.length
  decreasing_by exact length_of_readDistance ‹_›

/-- Read a label. -/
def decode? (chars : List Char) : Option (List Char) :=
  let digits := (chars.reverse.takeWhile (· != '-')).reverse
  let basics := chars.take (chars.length - digits.length - 1)
  if basics.isEmpty then readCodes 72 0x80 0 [] chars else readCodes 72 0x80 0 basics digits

end Punycode

end ScriptHost.Domain
