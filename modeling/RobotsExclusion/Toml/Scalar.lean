import RobotsExclusion.Document
import RobotsExclusion.Number.Binary64
import RobotsExclusion.Text.Digits
import RobotsExclusion.Text.Search
import RobotsExclusion.Toml.Moment

/-!
# Bare values in TOML

Truth values, integers, floating point numbers and moments are written without
quotes.  Digits may be grouped by single underscores.  Integers have 64 bits with
sign; a floating point number is the one nearest to what is written.  A moment
stands for its text.
-/

namespace RobotsExclusion

namespace Toml

/-- Takes the underscores out of a group of digits; each has to stand between two
digits. -/
def ungroup? (isDigit : Char → Bool) (text : List Char) : Option (List Char) :=
  let groups := text.splitOn '_'
  if groups.all fun group => !group.isEmpty && group.all isDigit then
    some groups.flatten
  else
    none

/-- Digits that begin with zero only if they are zero. -/
def withoutLeadingZero? (digits : List Char) : Option (List Char) :=
  match digits with
  | '0' :: _ :: _ => none
  | digits => some digits

/-- An integer in the range of 64 bits with sign. -/
def inRange? (value : Int) : Option Document :=
  if isSignedWord value then some (.integer value) else none

/-- Reads an integer of a base after its mark. -/
def based? (base : Nat) (isDigit : Char → Bool) (text : List Char) : Option Document :=
  (ungroup? isDigit text).bind fun digits => inRange? (Text.baseValue base digits)

def decimal? (text : List Char) : Option Document := do
  let (negative, rest) := Text.splitSign text
  let digits ← (ungroup? Char.isDigit rest).bind withoutLeadingZero?
  inRange? (Text.signed negative (Text.decimalValue digits))

def integer? (text : List Char) : Option Document :=
  match text with
  | '0' :: 'x' :: digits => based? 16 (fun c => (Text.hexValue? c).isSome) digits
  | '0' :: 'o' :: digits => based? 8 (fun c => '0' ≤ c && c ≤ '7') digits
  | '0' :: 'b' :: digits => based? 2 (fun c => c = '0' || c = '1') digits
  | _ => decimal? text

/-- Reads the exponent of a number after its mark. -/
def exponent? (text : List Char) : Option Int := do
  let (negative, rest) := Text.splitSign text
  let digits ← ungroup? Char.isDigit rest
  some (Text.signed negative (Text.decimalValue digits))

/-- Reads a floating point number with a point, an exponent, or both. -/
def fractional? (text : List Char) : Option Document := do
  let (negative, rest) := Text.splitSign text
  let (mantissa, exponentText) := Text.splitAtFirst (fun c => c = 'e' || c = 'E') rest
  let (wholeText, decimalsText) := Text.splitAtFirst (fun c => c = '.') mantissa
  let whole ← (ungroup? Char.isDigit wholeText).bind withoutLeadingZero?
  let (decimals, exponent) ←
    match decimalsText, exponentText with
    | none, none => none
    | some decimals, none => (ungroup? Char.isDigit decimals).map fun digits => (digits, 0)
    | none, some exponent => (exponent? exponent).map fun value => ([], value)
    | some decimals, some exponent =>
        (ungroup? Char.isDigit decimals).bind fun digits =>
          (exponent? exponent).map fun value => (digits, value)
  let number ← Binary64.ofDecimal negative (Text.decimalValue (whole ++ decimals))
    (exponent - decimals.length)
  some (.real number)

def special? (text : List Char) : Option Document :=
  let (negative, rest) := Text.splitSign text
  if rest = "inf".toList then
    some (.real (.infinite negative))
  else if rest = "nan".toList then
    some (.real .undefined)
  else
    none

def boolean? (text : List Char) : Option Document :=
  if text = "true".toList then
    some (.boolean true)
  else if text = "false".toList then
    some (.boolean false)
  else
    none

/-- Reads a date or a time of day as its text. -/
def moment? (text : List Char) : Option Document :=
  (Moment.read? text).map fun moment => .text moment.text

def scalar? (text : List Char) : Option Document :=
  [boolean?, special?, integer?, fractional?, moment?].findSome? fun read => read text

end Toml

end RobotsExclusion
