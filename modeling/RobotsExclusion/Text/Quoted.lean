import RobotsExclusion.Text.Printable

/-!
# Quoted texts

A text inside a message stands between double quotes, and what would not show
there is written by an escape: the quote and the backslash, the usual controls by
their letters, and every other character that is not printable by its code point
in hexadecimal digits.
-/

namespace RobotsExclusion.Text

/-- An escape by code point. -/
def codePointEscape (c : Char) : List Char :=
  '\\' :: 'u' :: '{' :: Nat.toDigits 16 c.toNat ++ ['}']

/-- How one character is written inside quotes. -/
def quotedChar (c : Char) : List Char :=
  match c with
  | '\x00' => ['\\', '0']
  | '\t' => ['\\', 't']
  | '\r' => ['\\', 'r']
  | '\n' => ['\\', 'n']
  | '"' => ['\\', '"']
  | '\\' => ['\\', '\\']
  | c => if isPrintable c then [c] else codePointEscape c

def quoted (text : String) : String :=
  String.ofList ('"' :: text.toList.flatMap quotedChar ++ ['"'])

end RobotsExclusion.Text
