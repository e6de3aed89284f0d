import RobotsExclusion.Number.Binary64

/-!
# Shortest decimal texts of numbers

A number is written with the fewest significant digits that still round to it;
among these the nearest to it is taken, and the larger one of two that are equally
near.  The digits are always written out in place, without an exponent.
-/

namespace RobotsExclusion

namespace Binary64

/-- The quotients that round to a magnitude: between `low` and `high`, over
`denominator`, ends included exactly when the magnitude is even. -/
structure Reach where
  low : Nat
  value : Nat
  high : Nat
  denominator : Nat
  closed : Bool

namespace Reach

/-- The quotients that round to a positive magnitude.  Below a power of two the
numbers lie twice as dense. -/
def ofUnits (units : Nat) : Reach :=
  let step := spacing units
  let below := if units = twoTo 52 * step ∧ 1 < step then step else 2 * step
  { low := 4 * units - below
    value := 4 * units
    high := 4 * units + 2 * step
    denominator := 4 * unitsPerOne
    closed := units / step % 2 = 0 }

/-- The same quotients in units of `10 ^ place`. -/
def atPlace (reach : Reach) (place : Int) : Reach :=
  match place with
  | .ofNat power => { reach with denominator := reach.denominator * tenTo power }
  | .negSucc power =>
      let factor := tenTo (power + 1)
      { reach with
        low := reach.low * factor
        value := reach.value * factor
        high := reach.high * factor }

def contains (reach : Reach) (candidate : Nat) : Bool :=
  let scaled := candidate * reach.denominator
  if reach.closed then
    reach.low ≤ scaled && scaled ≤ reach.high
  else
    reach.low < scaled && scaled < reach.high

/-- The whole number within reach that is nearest to the value. -/
def nearestWhole? (reach : Reach) : Option Nat :=
  let lower := reach.value / reach.denominator
  let remainder := reach.value % reach.denominator
  match reach.contains lower, reach.contains (lower + 1) with
  | true, true =>
      some (if 2 * remainder < reach.denominator then lower else lower + 1)
  | true, false => some lower
  | false, true => some (lower + 1)
  | false, false => none

/-- The count of digits before the decimal point; negative when zeros follow it. -/
def leadingPlace (reach : Reach) : Int :=
  (Nat.toDigits 10 (reach.value * tenTo 400 / reach.denominator)).length - 400

end Reach

/-- The shortest coefficient and the place of its last digit.  The first attempt
is the power of ten just above the value. -/
def shortest (units : Nat) : Nat × Int :=
  let reach := Reach.ofUnits units
  let leading := reach.leadingPlace
  let attempt := (List.range 18).findSome? fun (count : Nat) =>
    let place := leading - count
    (reach.atPlace place).nearestWhole?.map fun coefficient => (coefficient, place)
  attempt.getD (0, 0)

def positional (coefficient : Nat) (place : Int) : List Char :=
  let digits := Nat.toDigits 10 coefficient
  match place with
  | .ofNat power => digits ++ List.replicate power '0'
  | .negSucc power =>
      let decimals := power + 1
      let padded := List.replicate (decimals + 1 - digits.length) '0' ++ digits
      let whole := padded.length - decimals
      padded.take whole ++ '.' :: padded.drop whole

def magnitudeText (units : Nat) : List Char :=
  if units = 0 then
    ['0']
  else
    let digits := shortest units
    positional digits.1 digits.2

def signed (negative : Bool) (text : List Char) : List Char :=
  if negative then '-' :: text else text

def text : Binary64 → String
  | finite negative units => String.ofList (signed negative (magnitudeText units))
  | infinite negative => String.ofList (signed negative "inf".toList)
  | undefined => "NaN"

/-- The shortest text of a number, with a decimal place even for a whole number. -/
def pointedText : Binary64 → String
  | finite negative units =>
      let digits := magnitudeText units
      let pointed := if digits.contains '.' then digits else digits ++ ['.', '0']
      String.ofList (signed negative pointed)
  | infinite negative => String.ofList (signed negative "inf".toList)
  | undefined => "NaN"

end Binary64

end RobotsExclusion
