import RobotsExclusion.Json.Number
import RobotsExclusion.Text.Escaped

/-!
# Tokens of JSON

A JSON text is a sequence of tokens with blanks between them.  The scanner reads it
character by character; a token without a mark of its own at the end, such as a
number, is complete when the next character cannot belong to it.
-/

namespace RobotsExclusion

namespace Json

/-- A token; the words and the numbers stand for their values. -/
inductive Token
  | openList
  | closeList
  | openTable
  | closeTable
  | colon
  | comma
  | text (content : String)
  | scalar (value : Document)
  deriving DecidableEq

/-- What the scanner is in the middle of; contents are listed newest first. -/
inductive Mode
  | between
  /-- In a word or a number. -/
  | bare (spelling : List Char)
  | quoted (content : List Char)
  /-- After a backslash in a text. -/
  | escape (content : List Char)
  /-- In an escape by code unit, with the digits that are missing and the value so
  far; `high` is the unit of a pair that was read before. -/
  | unit (content : List Char) (high : Option Nat) (missing : Nat) (value : Nat)
  /-- After the first unit of a pair; `slash` tells that a backslash followed. -/
  | pair (content : List Char) (high : Nat) (slash : Bool)

/-- A scanner: the tokens so far, newest first, and its mode. -/
structure Scanner where
  tokens : List Token
  mode : Mode

def isBlank (c : Char) : Bool :=
  c = ' ' || c = '\t' || c = '\n' || c = '\r'

def isBare (c : Char) : Bool :=
  c.isAlphanum || c = '+' || c = '-' || c = '.'

/-- The value of a word or a number. -/
def scalar? (spelling : List Char) : Option Document :=
  if spelling = "null".toList then
    some .null
  else if spelling = "true".toList then
    some (.boolean true)
  else if spelling = "false".toList then
    some (.boolean false)
  else
    number? spelling

/-- The character that a backslash and one more character stand for. -/
def escaped? : Char → Option Char
  | '/' => some '/'
  | c => Text.escapedBy? c

/-- Whether a code unit is the first of a pair. -/
def isHighUnit (value : Nat) : Bool :=
  0xD800 ≤ value && value < 0xDC00

/-- Whether a code unit is the second of a pair. -/
def isLowUnit (value : Nat) : Bool :=
  0xDC00 ≤ value && value < 0xE000

/-- Goes on in a text after an escape by code unit.  A pair of units is one
character, and half a pair is none. -/
def afterUnit (content : List Char) (high : Option Nat) (value : Nat) : Option Mode :=
  match high with
  | none =>
      if isHighUnit value then
        some (.pair content value false)
      else if isLowUnit value then
        none
      else
        some (.quoted (Char.ofNat value :: content))
  | some first =>
      if isLowUnit value then
        let code := 0x10000 + (first - 0xD800) * 0x400 + (value - 0xDC00)
        some (.quoted (Char.ofNat code :: content))
      else
        none

namespace Scanner

def push (scanner : Scanner) (token : Token) : Scanner :=
  ⟨token :: scanner.tokens, .between⟩

def start (scanner : Scanner) (c : Char) : Option Scanner :=
  if isBlank c then
    some { scanner with mode := .between }
  else if isBare c then
    some { scanner with mode := .bare [c] }
  else
    match c with
    | '[' => some (scanner.push .openList)
    | ']' => some (scanner.push .closeList)
    | '{' => some (scanner.push .openTable)
    | '}' => some (scanner.push .closeTable)
    | ':' => some (scanner.push .colon)
    | ',' => some (scanner.push .comma)
    | '"' => some { scanner with mode := .quoted [] }
    | _ => none

def complete (scanner : Scanner) (spelling : List Char) : Option Scanner :=
  (scalar? spelling.reverse).map fun value => scanner.push (.scalar value)

def advance (scanner : Scanner) (c : Char) : Option Scanner :=
  match scanner.mode with
  | .between => scanner.start c
  | .bare spelling =>
      if isBare c then
        some { scanner with mode := .bare (c :: spelling) }
      else
        (scanner.complete spelling).bind fun completed => completed.start c
  | .quoted content =>
      if c = '"' then
        some (scanner.push (.text (String.ofList content.reverse)))
      else if c = '\\' then
        some { scanner with mode := .escape content }
      else if c.toNat < 0x20 then
        none
      else
        some { scanner with mode := .quoted (c :: content) }
  | .escape content =>
      if c = 'u' then
        some { scanner with mode := .unit content none 4 0 }
      else
        (escaped? c).map fun character =>
          { scanner with mode := .quoted (character :: content) }
  | .unit content high missing value =>
      match Text.hexValue? c with
      | none => none
      | some digit =>
          if missing = 1 then
            (afterUnit content high (value * 16 + digit)).map fun mode =>
              { scanner with mode := mode }
          else
            some { scanner with
              mode := .unit content high (missing - 1) (value * 16 + digit) }
  | .pair content high slash =>
      match slash, c with
      | false, '\\' => some { scanner with mode := .pair content high true }
      | true, 'u' => some { scanner with mode := .unit content (some high) 4 0 }
      | _, _ => none

def finish (scanner : Scanner) : Option (List Token) :=
  match scanner.mode with
  | .between => some scanner.tokens.reverse
  | .bare spelling =>
      (scanner.complete spelling).map fun completed => completed.tokens.reverse
  | _ => none

end Scanner

def tokens? (text : List Char) : Option (List Token) :=
  (text.foldlM Scanner.advance ⟨[], .between⟩).bind Scanner.finish

end Json

end RobotsExclusion
