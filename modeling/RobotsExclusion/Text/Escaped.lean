/-!
# Escapes between quotes

Inside a quoted text the quote and the backslash are written by a backslash and
themselves, the usual controls by a backslash and a letter, and further controls by
a backslash, the letter `u` and four hexadecimal digits.
-/

namespace RobotsExclusion.Text

/-- The character that a backslash and one more character stand for. -/
def escapedBy? : Char → Option Char
  | '"' => some '"'
  | '\\' => some '\\'
  | 'b' => some '\x08'
  | 't' => some '\t'
  | 'n' => some '\n'
  | 'f' => some '\x0c'
  | 'r' => some '\r'
  | _ => none

/-- The letter or mark that stands for a character after a backslash. -/
def escapeLetter? : Char → Option Char
  | '"' => some '"'
  | '\\' => some '\\'
  | '\x08' => some 'b'
  | '\t' => some 't'
  | '\n' => some 'n'
  | '\x0c' => some 'f'
  | '\r' => some 'r'
  | _ => none

/-- How one character is written between quotes, when some characters are controls. -/
def escapedChar (isControl : Char → Bool) (c : Char) : List Char :=
  match escapeLetter? c with
  | some letter => ['\\', letter]
  | none =>
      if isControl c then
        ['\\', 'u', '0', '0', Nat.digitChar (c.toNat / 16), Nat.digitChar (c.toNat % 16)]
      else
        [c]

/-- A text between quotes. -/
def escaped (isControl : Char → Bool) (text : String) : List Char :=
  '"' :: text.toList.flatMap (escapedChar isControl) ++ ['"']

end RobotsExclusion.Text
