import RobotsExclusion.Number.Powers

/-!
# Binary floating point numbers

A finite number of 64 bits is a whole multiple of the least positive one,
`2 ^ -1074`, so its magnitude is a count of these units.  Above `2 ^ 53` units
only every second, fourth, … count is a number.  Exact quotients are rounded to
the nearest number, and to the even one of two that are equally near.
-/

namespace RobotsExclusion

/-- A binary floating point number; a finite one is given by its sign and its
magnitude in units of `2 ^ -1074`. -/
inductive Binary64
  | finite (negative : Bool) (units : Nat)
  | infinite (negative : Bool)
  | undefined
  deriving DecidableEq

namespace Binary64

def unitsPerOne : Nat :=
  twoTo 1074

/-- The first count of units that is too large for a finite number. -/
def unitLimit : Nat :=
  twoTo 2098

/-- The distance of neighbouring numbers at a magnitude, in units. -/
def spacing (units : Nat) : Nat :=
  twoTo (units.log2 - 52)

/-- The whole number nearest to a quotient, and the even one of two. -/
def roundQuotient (numerator denominator : Nat) : Nat :=
  let quotient := numerator / denominator
  let remainder := numerator % denominator
  if 2 * remainder < denominator then
    quotient
  else if denominator < 2 * remainder then
    quotient + 1
  else
    quotient + quotient % 2

/-- The magnitude nearest to a quotient; none when it is too large. -/
def nearest (numerator denominator : Nat) : Option Nat :=
  let scaled := numerator * unitsPerOne
  let step := spacing (scaled / denominator)
  let units := roundQuotient scaled (denominator * step) * step
  if units < unitLimit then some units else none

def product (first second : Nat) : Option Nat :=
  nearest (first * second) (unitsPerOne * unitsPerOne)

def ratio (first second : Nat) : Option Nat :=
  nearest first second

/-- The magnitude nearest to a power of ten. -/
def powerOfTen (exponent : Nat) : Option Nat :=
  nearest (tenTo exponent) 1

/-- The number nearest to `coefficient * 10 ^ exponent`; none when it is too large.
Exponents beyond any number are settled by the count of digits. -/
def ofDecimal (negative : Bool) (coefficient : Nat) (exponent : Int) : Option Binary64 :=
  let digits : Int := (Nat.toDigits 10 coefficient).length
  if coefficient = 0 ∨ digits + exponent < -330 then
    some (.finite negative 0)
  else if 310 < digits + exponent then
    none
  else
    let units :=
      match exponent with
      | .ofNat power => nearest (coefficient * tenTo power) 1
      | .negSucc power => nearest coefficient (tenTo (power + 1))
    units.map (.finite negative)

end Binary64

end RobotsExclusion
