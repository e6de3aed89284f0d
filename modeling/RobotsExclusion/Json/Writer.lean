import RobotsExclusion.Document
import RobotsExclusion.Number.Shortest
import RobotsExclusion.Text.Escaped

/-!
# Documents written as JSON

A document is written without blanks.  A number that is not finite has no JSON form
and is written as null.
-/

namespace RobotsExclusion

namespace Json

/-- Whether a character has to be escaped in a text. -/
def isControl (c : Char) : Bool :=
  c.toNat < 0x20

def writeText (text : String) : List Char :=
  Text.escaped isControl text

def writeReal (value : Binary64) : List Char :=
  match value with
  | .finite _ _ => value.pointedText.toList
  | _ => "null".toList

mutual

def write : Document → List Char
  | .null => "null".toList
  | .boolean true => "true".toList
  | .boolean false => "false".toList
  | .integer value => (toString value).toList
  | .real value => writeReal value
  | .text value => writeText value
  | .list [] => ['[', ']']
  | .list (item :: rest) => '[' :: write item ++ writeItems rest ++ [']']
  | .table [] => ['{', '}']
  | .table ((name, value) :: rest) =>
      '{' :: writeText name ++ ':' :: write value ++ writeEntries rest ++ ['}']

def writeItems : List Document → List Char
  | [] => []
  | item :: rest => ',' :: write item ++ writeItems rest

def writeEntries : List (String × Document) → List Char
  | [] => []
  | (name, value) :: rest =>
      ',' :: writeText name ++ ':' :: write value ++ writeEntries rest

end

end Json

end RobotsExclusion
