import RobotsExclusion.Text.Escaped

/-!
# Pieces of TOML texts

Texts, arrays and inline tables as they are written on one line.
-/

namespace RobotsExclusion

namespace Toml

/-- Whether a character has to be escaped in a text. -/
def isControl (c : Char) : Bool :=
  c.toNat < 0x20 || c.toNat = 0x7F

def writeText (text : String) : List Char :=
  Text.escaped isControl text

/-- Written items with a comma and a blank between them. -/
def separated (items : List (List Char)) : List Char :=
  (items.intersperse [',', ' ']).flatten

def writeArray (items : List (List Char)) : List Char :=
  '[' :: separated items ++ [']']

/-- An entry with a bare name and a written value. -/
def writeEntry (name : String) (value : List Char) : List Char :=
  name.toList ++ ' ' :: '=' :: ' ' :: value

def writeInlineTable (entries : List (List Char)) : List Char :=
  '{' :: ' ' :: separated entries ++ [' ', '}']

end Toml

end RobotsExclusion
