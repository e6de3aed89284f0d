import RobotsExclusion.Number.Powers
import RobotsExclusion.Text.Digits

/-!
# Dates and times in TOML

A moment is a date, a time of day, or both with an optional offset.  The seconds
may be left out, a fraction of a second is kept to nine digits, and the day has to
exist in its month.
-/

namespace RobotsExclusion

namespace Toml

structure Date where
  year : Nat
  month : Nat
  day : Nat

/-- A time of day; the fraction is given in billionths. -/
structure Clock where
  hour : Nat
  minute : Nat
  second : Option Nat
  fraction : Option Nat

/-- A distance from universal time, in minutes. -/
inductive Offset
  | universal
  | minutes (count : Int)

/-- A date, a time of day, or both. -/
inductive Moment
  | date (date : Date)
  | clock (clock : Clock)
  | both (date : Date) (clock : Clock) (offset : Option Offset)

/-- Reads a number of exactly so many digits. -/
def fixedNumber? (count : Nat) (text : List Char) : Option (Nat × List Char) :=
  let digits := text.take count
  if digits.length = count ∧ digits.all Char.isDigit then
    some (Text.decimalValue digits, text.drop count)
  else
    none

def mark? (marks : List Char) : List Char → Option (List Char)
  | [] => none
  | c :: rest => if c ∈ marks then some rest else none

namespace Date

def isLeap (year : Nat) : Bool :=
  year % 4 = 0 && (year % 100 ≠ 0 || year % 400 = 0)

def daysInMonth (year month : Nat) : Nat :=
  if month = 2 then
    if isLeap year then 29 else 28
  else if month ∈ [4, 6, 9, 11] then
    30
  else
    31

def isValid (date : Date) : Bool :=
  1 ≤ date.month && date.month ≤ 12 &&
    1 ≤ date.day && date.day ≤ daysInMonth date.year date.month

def read? (text : List Char) : Option (Date × List Char) := do
  let (year, text) ← fixedNumber? 4 text
  let text ← mark? ['-'] text
  let (month, text) ← fixedNumber? 2 text
  let text ← mark? ['-'] text
  let (day, text) ← fixedNumber? 2 text
  let date : Date := ⟨year, month, day⟩
  if date.isValid then some (date, text) else none

end Date

namespace Date

def text (date : Date) : List Char :=
  Text.padded 4 date.year ++ '-' :: Text.padded 2 date.month ++ '-' :: Text.padded 2 date.day

end Date

namespace Clock

/-- Reads the fraction of a second after its point, in billionths; further digits do
not count. -/
def readFraction? (text : List Char) : Option (Nat × List Char) :=
  let digits := text.takeWhile Char.isDigit
  if digits.isEmpty then
    none
  else
    let kept := digits.take 9
    some (Text.decimalValue kept * tenTo (9 - kept.length), text.dropWhile Char.isDigit)

/-- Reads the seconds with their fraction, after the minutes. -/
def readSeconds? (hour minute : Nat) (text : List Char) : Option (Clock × List Char) := do
  let (second, text) ← fixedNumber? 2 text
  match text with
  | '.' :: rest =>
      let (fraction, rest) ← readFraction? rest
      some (⟨hour, minute, some second, some fraction⟩, rest)
  | rest => some (⟨hour, minute, some second, none⟩, rest)

/-- Whether a time of day exists; a minute may have a leap second. -/
def isValid (clock : Clock) : Bool :=
  clock.hour ≤ 23 && clock.minute ≤ 59 && (clock.second.getD 0) ≤ 60

def read? (text : List Char) : Option (Clock × List Char) := do
  let (hour, text) ← fixedNumber? 2 text
  let text ← mark? [':'] text
  let (minute, text) ← fixedNumber? 2 text
  let (clock, text) ←
    match text with
    | ':' :: rest => readSeconds? hour minute rest
    | rest => some (⟨hour, minute, none, none⟩, rest)
  if clock.isValid then some (clock, text) else none

/-- The digits of a fraction without trailing zeros, but at least one. -/
def fractionText (fraction : Nat) : List Char :=
  let digits := Text.withoutTrailingZeros (Text.padded 9 fraction)
  if digits.isEmpty then ['0'] else digits

def text (clock : Clock) : List Char :=
  let minutes := Text.padded 2 clock.hour ++ ':' :: Text.padded 2 clock.minute
  let seconds :=
    match clock.second with
    | some second => ':' :: Text.padded 2 second
    | none => []
  let fraction :=
    match clock.fraction with
    | some fraction => '.' :: fractionText fraction
    | none => []
  minutes ++ seconds ++ fraction

end Clock

namespace Offset

def read? (text : List Char) : Option (Offset × List Char) :=
  match text with
  | [] => none
  | sign :: rest =>
      if sign = 'Z' ∨ sign = 'z' then
        some (universal, rest)
      else if sign = '+' ∨ sign = '-' then do
        let (hour, rest) ← fixedNumber? 2 rest
        let rest ← mark? [':'] rest
        let (minute, rest) ← fixedNumber? 2 rest
        if hour ≤ 23 ∧ minute ≤ 59 then
          some (.minutes (Text.signed (sign = '-') (hour * 60 + minute)), rest)
        else
          none
      else
        none

def text : Offset → List Char
  | universal => ['Z']
  | minutes count =>
      (if count < 0 then '-' else '+') ::
        Text.padded 2 (count.natAbs / 60) ++ ':' :: Text.padded 2 (count.natAbs % 60)

end Offset

namespace Moment

/-- A value that was read together with the whole text. -/
def whole? {α : Type} (read : Option (α × List Char)) : Option α :=
  match read with
  | some (value, []) => some value
  | _ => none

def readAfterDate? (day : Date) (text : List Char) : Option Moment :=
  match text with
  | [] => some (.date day)
  | _ => do
      let text ← mark? ['T', 't', ' '] text
      let (time, text) ← Clock.read? text
      match text with
      | [] => some (.both day time none)
      | _ => (whole? (Offset.read? text)).map fun offset => .both day time (some offset)

def read? (text : List Char) : Option Moment :=
  match Date.read? text with
  | some (day, rest) => readAfterDate? day rest
  | none => (whole? (Clock.read? text)).map .clock

def text : Moment → String
  | date day => String.ofList day.text
  | clock time => String.ofList time.text
  | both day time offset =>
      let offsetText :=
        match offset with
        | some offset => offset.text
        | none => []
      String.ofList (day.text ++ 'T' :: time.text ++ offsetText)

end Moment

end Toml

end RobotsExclusion
