import RobotsExclusion.Document
import RobotsExclusion.Number.Powers
import RobotsExclusion.Text.Digits

/-!
# Key paths

The names at the top level of a configuration are paths: `groups[0].agents` is the
entry `agents` of the first item of the list `groups`.  A name that does not read
as a path stands for itself.  Setting a place creates what is missing on the way:
a table or a list replaces any other value, and a list grows by nulls until it
reaches the position, which a negative number counts from the end.
-/

namespace RobotsExclusion

/-- One step down a document. -/
inductive Step
  | key (name : String)
  | index (position : Int)

namespace KeyPath

/-- How far the reading of a path has come within its current step. -/
inductive Progress
  /-- In a name; the letters so far, newest first. -/
  | name (letters : List Char)
  /-- After an opening bracket and blanks. -/
  | opened
  | minus
  /-- In a number; the digits so far, newest first. -/
  | digits (negative : Bool) (digits : List Char)
  /-- After a number and blanks. -/
  | closing (position : Int)
  | closed

def isNameChar (c : Char) : Bool :=
  c.isAlphanum || c = '_' || c = '-'

def isPadding (c : Char) : Bool :=
  c = ' ' || c = '\t'

/-- The position that a sign and digits stand for, if it is in the range of signed
64-bit integers. -/
def position? (negative : Bool) (digits : List Char) : Option Int :=
  let position := Text.signed negative (Text.decimalValue digits.reverse)
  if isSignedWord position then some position else none

/-- A name becomes a step unless it is empty. -/
def nameStep? (letters : List Char) : Option Step :=
  if letters.isEmpty then none else some (.key (String.ofList letters.reverse))

/-- Reads one more character; the steps so far are listed newest first. -/
def advance (state : List Step × Progress) (c : Char) : Option (List Step × Progress) :=
  match state with
  | (steps, .name letters) =>
      if isNameChar c then
        some (steps, .name (c :: letters))
      else
        match nameStep? letters, c with
        | some step, '.' => some (step :: steps, .name [])
        | some step, '[' => some (step :: steps, .opened)
        | _, _ => none
  | (steps, .opened) =>
      if isPadding c then
        some (steps, .opened)
      else if c = '-' then
        some (steps, .minus)
      else if c.isDigit then
        some (steps, .digits false [c])
      else
        none
  | (steps, .minus) =>
      if c.isDigit then some (steps, .digits true [c]) else none
  | (steps, .digits negative digits) =>
      if c.isDigit then
        some (steps, .digits negative (c :: digits))
      else
        match position? negative digits with
        | none => none
        | some position =>
            if isPadding c then
              some (steps, .closing position)
            else if c = ']' then
              some (.index position :: steps, .closed)
            else
              none
  | (steps, .closing position) =>
      if isPadding c then
        some (steps, .closing position)
      else if c = ']' then
        some (.index position :: steps, .closed)
      else
        none
  | (steps, .closed) =>
      match c with
      | '.' => some (steps, .name [])
      | '[' => some (steps, .opened)
      | _ => none

def finish : List Step × Progress → Option (List Step)
  | (steps, .name letters) => (nameStep? letters).map fun step => (step :: steps).reverse
  | (steps, .closed) => some steps.reverse
  | _ => none

def parse? (text : String) : Option (List Step) :=
  (text.toList.foldlM advance ([], .name [])).bind finish

/-- The path that a top-level name stands for. -/
def ofName (name : String) : List Step :=
  (parse? name).getD [.key name]

end KeyPath

namespace Document

/-- Grows a list by nulls until a position exists in it, and gives the place of
that position.  A position before the start moves the start. -/
def makeRoom (items : List Document) (position : Int) : List Document × Nat :=
  match position with
  | .ofNat place => (items ++ List.replicate (place + 1 - items.length) .null, place)
  | .negSucc backward =>
      if backward < items.length then
        (items, items.length - (backward + 1))
      else
        (List.replicate (backward + 1 - items.length) .null ++ items, 0)

/-- Changes the value at a path, creating what is missing on the way. -/
def update (change : Document → Document) : (path : List Step) → Document → Document
  | [], document => change document
  | .key name :: path, document =>
      let entries := document.entries
      let inner := (Keyed.get? name entries).getD .null
      .table (Keyed.put name (update change path inner) entries)
  | .index position :: path, document =>
      let room := makeRoom document.items position
      .list (room.1.modify room.2 (update change path))

/-- Enters a top-level entry of a configuration text. -/
def enter (document : Document) (entry : String × Document) : Document :=
  update (overlay entry.2) (KeyPath.ofName entry.1) document

/-- The document that the top-level entries of a configuration text set up. -/
def ofEntries (entries : List (String × Document)) : Document :=
  entries.foldl enter (.table [])

end Document

end RobotsExclusion
