import RobotsExclusion.Document
import RobotsExclusion.Text.Digits

/-!
# Numbers in JSON

An integer that fits into 64 bits is kept.  Any other number is floating.  Its
digits are gathered as long as they fit into 64 bits: a digit for which there is no
room counts as a place before the decimal point, and not at all after it.  The
gathered digits are then scaled by a power of ten with one rounding for each
operation, so the result is near the written number but not always nearest to it.
-/

namespace RobotsExclusion

namespace Json

def wordLimit : Nat :=
  twoTo 64

/-- The digits gathered so far, whether they are complete, and the power of ten
that they are to be scaled by. -/
structure Gathered where
  significand : Nat
  full : Bool
  exponent : Int

namespace Gathered

/-- Gathers a digit before the decimal point; without room it counts as a place. -/
def whole (gathered : Gathered) (digit : Char) : Gathered :=
  let extended := gathered.significand * 10 + Text.digitValue digit
  if gathered.full ∨ wordLimit ≤ extended then
    { gathered with full := true, exponent := gathered.exponent + 1 }
  else
    { gathered with significand := extended }

/-- Begins to gather the digits after the decimal point, for which there may be room
again. -/
def reopened (gathered : Gathered) : Gathered :=
  { gathered with full := false }

/-- Gathers a digit after the decimal point; without room it is dropped. -/
def decimal (gathered : Gathered) (digit : Char) : Gathered :=
  let extended := gathered.significand * 10 + Text.digitValue digit
  if gathered.full ∨ wordLimit ≤ extended then
    { gathered with full := true }
  else
    { gathered with significand := extended, exponent := gathered.exponent - 1 }

/-- The largest power of ten that is a floating point number. -/
def largestPower : Nat :=
  308

/-- Divides a magnitude several times by the same divisor. -/
def divideTimes (divisor : Nat) : (times units : Nat) → Option Nat
  | 0, units => some units
  | times + 1, units =>
      if units = 0 then
        some 0
      else
        (Binary64.ratio units divisor).bind (divideTimes divisor times)

/-- Divides a magnitude by a power of ten, at most by the largest one at a time. -/
def divide (units : Nat) (power : Nat) : Option Nat := do
  let times := (power - 1) / largestPower
  let largest ← Binary64.powerOfTen largestPower
  let reduced ← divideTimes largest times units
  let remaining ← Binary64.powerOfTen (power - largestPower * times)
  Binary64.ratio reduced remaining

/-- Multiplies a magnitude by a power of ten. -/
def multiply (units : Nat) (power : Nat) : Option Nat :=
  if power ≤ largestPower then
    (Binary64.powerOfTen power).bind (Binary64.product units)
  else if units = 0 then
    some 0
  else
    none

/-- Scales a magnitude by a power of ten. -/
def scale (exponent : Int) (units : Nat) : Option Nat :=
  match exponent with
  | .ofNat power => multiply units power
  | .negSucc power => divide units (power + 1)

/-- The magnitude of the gathered digits; none when it is too large. -/
def units? (gathered : Gathered) : Option Nat :=
  (Binary64.nearest gathered.significand 1).bind (scale gathered.exponent)

/-- The floating point number of the gathered digits. -/
def real? (gathered : Gathered) (negative : Bool) : Option Document :=
  gathered.units?.map fun units => .real (.finite negative units)

/-- The number of the gathered digits when no point and no exponent follow. -/
def integer? (gathered : Gathered) (negative : Bool) : Option Document :=
  if gathered.full then
    gathered.real? negative
  else if ¬ negative then
    some (.integer gathered.significand)
  else if gathered.significand = 0 ∨ twoTo 63 < gathered.significand then
    gathered.real? true
  else
    some (.integer (-gathered.significand))

end Gathered

def splitDigits (text : List Char) : List Char × List Char :=
  (text.takeWhile Char.isDigit, text.dropWhile Char.isDigit)

/-- Reads what follows the mark of an exponent. -/
def exponent? (text : List Char) : Option Int :=
  let parts := Text.splitSign text
  if parts.2.isEmpty ∨ ¬ parts.2.all Char.isDigit then
    none
  else
    some (Text.signed parts.1 (Text.decimalValue parts.2))

/-- Reads what follows the digits before an exponent. -/
def scaled? (gathered : Gathered) (negative : Bool) (text : List Char) : Option Document :=
  match text with
  | [] => gathered.real? negative
  | mark :: rest =>
      if mark = 'e' ∨ mark = 'E' then
        match exponent? rest with
        | some exponent =>
            { gathered with exponent := gathered.exponent + exponent }.real? negative
        | none => none
      else
        none

def unsigned? (negative : Bool) (text : List Char) : Option Document :=
  let whole := splitDigits text
  if whole.1.isEmpty ∨ (whole.1.head? = some '0' ∧ 1 < whole.1.length) then
    none
  else
    let gathered := whole.1.foldl Gathered.whole ⟨0, false, 0⟩
    match whole.2 with
    | [] => gathered.integer? negative
    | '.' :: rest =>
        let decimals := splitDigits rest
        if decimals.1.isEmpty then
          none
        else
          scaled? (decimals.1.foldl Gathered.decimal gathered.reopened) negative
            decimals.2
    | rest => scaled? gathered negative rest

def number? (text : List Char) : Option Document :=
  match text with
  | '-' :: rest => unsigned? true rest
  | _ => unsigned? false text

end Json

end RobotsExclusion
