import RobotsExclusion.Config
import RobotsExclusion.Config.Misfit

/-!
# Configurations read from documents

A document is read field by field.  A record is a table, whose unknown entries do
not matter, or a list, which gives the fields by position.  A missing field is
empty, and a scalar other than null serves as a text.
-/

namespace RobotsExclusion

namespace Document

/-- The text of a scalar; null, lists and tables have none. -/
def scalarText? : Document → Option String
  | null => none
  | boolean value => some (booleanText value)
  | integer value => some (toString value)
  | real value => some value.text
  | text value => some value
  | list _ => none
  | table _ => none

/-- Whether a value can give the fields of a record. -/
def isRecord : Document → Bool
  | list _ => true
  | table _ => true
  | _ => false

/-- A field of a record with the step that leads to it. -/
def field? (name : String) (position : Nat) : Document → Option (Step × Document)
  | list items => items[position]?.map fun value => (.index position, value)
  | table entries => (Keyed.get? name entries).map fun value => (.key name, value)
  | _ => none

end Document

namespace Config

/-- Reading a value of one kind at a given place. -/
abbrev Reader (α : Type) :=
  List Step → Document → Except Misfit α

namespace Reader

def text : Reader String := fun place document =>
  match document.scalarText? with
  | some value => .ok value
  | none => .error (.inside document .text place)

/-- Reads items that stand one after the other from a position on. -/
def items {α : Type} (item : Reader α) (place : List Step) :
    (position : Nat) → List Document → Except Misfit (List α)
  | _, [] => .ok []
  | position, document :: rest =>
      match item (place ++ [.index position]) document with
      | .error misfit => .error misfit
      | .ok value => (items item place (position + 1) rest).map (value :: ·)

def sequence {α : Type} (item : Reader α) : Reader (List α) := fun place document =>
  match document with
  | .list documents => items item place 0 documents
  | _ => .error (.inside document .sequence place)

/-- Reads a field of a record; a missing one has the default value. -/
def field {α : Type} (name : String) (position : Nat) (default : α) (value : Reader α) :
    Reader α := fun place document =>
  match document.field? name position with
  | some (step, inner) => value (place ++ [step]) inner
  | none => .ok default

def line : Reader Line := fun place document =>
  if document.isRecord then do
    let rule ← field "rule" 0 "" text place document
    let path ← field "path" 1 "" text place document
    return ⟨rule, path⟩
  else
    .error (.inside document .line place)

def group : Reader Group := fun place document =>
  if document.isRecord then do
    let agents ← field "agents" 0 [] (sequence text) place document
    let rules ← field "rules" 1 [] (sequence line) place document
    return ⟨agents, rules⟩
  else
    .error (.inside document .group place)

end Reader

/-- Reads the configuration that a set-up document describes. -/
def ofDocument (document : Document) : Except Misfit Config :=
  (Reader.field "groups" 0 [] (Reader.sequence Reader.group) [] document).map Config.mk

/-- Reads the configuration of a parsed text.  The text has to be a table, whose
entries are set up one after the other. -/
def ofRoot (root : Document) : Except Misfit Config :=
  match root with
  | .table entries => ofDocument (Document.ofEntries entries)
  | _ => .error (.root root)

end Config

end RobotsExclusion
