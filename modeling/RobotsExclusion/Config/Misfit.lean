import RobotsExclusion.Document.KeyPath
import RobotsExclusion.Number.Shortest
import RobotsExclusion.Text.Quoted

/-!
# Misfits

A value of the wrong kind is reported with what it is, what was expected in its
place, and where it stands.
-/

namespace RobotsExclusion

/-- What a place of a configuration has to hold. -/
inductive Expectation
  | sequence
  | group
  | line
  | text

inductive Misfit
  /-- The whole document is not a table. -/
  | root (found : Document)
  /-- The value at a place is of the wrong kind. -/
  | inside (found : Document) (expected : Expectation) (place : List Step)

namespace Expectation

def description : Expectation → String
  | sequence => "a sequence"
  | group => "struct ConfigGroup"
  | line => "struct ConfigGroupRule"
  | text => "a string"

end Expectation

namespace Step

/-- A step as it stands in the name of a place. -/
def label : Step → String
  | key name => name
  | index position => "[" ++ toString position ++ "]"

end Step

namespace Document

def booleanText (value : Bool) : String :=
  if value then "true" else "false"

def description : Document → String
  | null => "unit value"
  | boolean value => "boolean `" ++ booleanText value ++ "`"
  | integer value => "integer `" ++ toString value ++ "`"
  | real value => "floating point `" ++ value.pointedText ++ "`"
  | text value => "string " ++ Text.quoted value
  | list _ => "sequence"
  | table _ => "map"

/-- A whole document in words; here numbers are told with their width. -/
def rootDescription : Document → String
  | integer value =>
      if isSignedWord value then
        "64-bit integer `" ++ toString value ++ "`"
      else
        "64-bit unsigned integer `" ++ toString value ++ "`"
  | real value => "floating point `" ++ value.text ++ "`"
  | document => document.description

end Document

namespace Misfit

/-- The name of a place: its steps one after the other. -/
def placeName (place : List Step) : String :=
  String.join (place.map Step.label)

def message : Misfit → String
  | root found => "invalid type: " ++ found.rootDescription ++ ", expected a map"
  | inside found expected place =>
      "invalid type: " ++ found.description ++ ", expected " ++ expected.description ++
        " for key `" ++ placeName place ++ "`"

end Misfit

end RobotsExclusion
