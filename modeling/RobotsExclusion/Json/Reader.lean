import RobotsExclusion.Json.Token

/-!
# Documents read from JSON

Tokens are put together to a document by a machine that keeps the lists and tables
which are still open, the innermost first.  Of entries with the same name the last
one counts.
-/

namespace RobotsExclusion

namespace Json

/-- A list or a table that is still open around the current place. -/
inductive Frame
  /-- A list with its items so far, newest first. -/
  | list (items : List Document)
  /-- A table with its entries so far and the name whose value comes next. -/
  | table (entries : List (String × Document)) (name : String)

/-- What has to come next. -/
inductive Position
  | value
  /-- The first item of a list, or its end. -/
  | listStart
  /-- Further items, or the end of a list. -/
  | listRest (items : List Document)
  /-- The first name of a table, or its end. -/
  | tableStart
  | name (entries : List (String × Document))
  | colon (entries : List (String × Document)) (name : String)
  /-- Further entries, or the end of a table. -/
  | tableRest (entries : List (String × Document))
  | complete (document : Document)

structure Machine where
  position : Position
  frames : List Frame

/-- How deep lists and tables may be nested. -/
def depthLimit : Nat :=
  127

def deliver (document : Document) : List Frame → Machine
  | [] => ⟨.complete document, []⟩
  | .list items :: frames => ⟨.listRest (document :: items), frames⟩
  | .table entries name :: frames =>
      ⟨.tableRest (Keyed.put name document entries), frames⟩

/-- Opens a list or a table, unless it would be nested too deep. -/
def opening (position : Position) (frames : List Frame) : Option Machine :=
  if frames.length < depthLimit then some ⟨position, frames⟩ else none

def beginValue (token : Token) (frames : List Frame) : Option Machine :=
  match token with
  | .openList => opening .listStart frames
  | .openTable => opening .tableStart frames
  | .text content => some (deliver (.text content) frames)
  | .scalar value => some (deliver value frames)
  | _ => none

def Machine.advance (machine : Machine) (token : Token) : Option Machine :=
  match machine.position with
  | .value => beginValue token machine.frames
  | .listStart =>
      match token with
      | .closeList => some (deliver (.list []) machine.frames)
      | _ => beginValue token (.list [] :: machine.frames)
  | .listRest items =>
      match token with
      | .comma => some ⟨.value, .list items :: machine.frames⟩
      | .closeList => some (deliver (.list items.reverse) machine.frames)
      | _ => none
  | .tableStart =>
      match token with
      | .closeTable => some (deliver (.table []) machine.frames)
      | .text name => some ⟨.colon [] name, machine.frames⟩
      | _ => none
  | .name entries =>
      match token with
      | .text name => some ⟨.colon entries name, machine.frames⟩
      | _ => none
  | .colon entries name =>
      match token with
      | .colon => some ⟨.value, .table entries name :: machine.frames⟩
      | _ => none
  | .tableRest entries =>
      match token with
      | .comma => some ⟨.name entries, machine.frames⟩
      | .closeTable => some (deliver (.table entries) machine.frames)
      | _ => none
  | .complete _ => none

def Machine.finish (machine : Machine) : Option Document :=
  match machine.position with
  | .complete document => some document
  | _ => none

def ofTokens? (tokens : List Token) : Option Document :=
  (tokens.foldlM Machine.advance ⟨.value, []⟩).bind Machine.finish

def parse? (text : String) : Option Document :=
  (tokens? text.toList).bind ofTokens?

end Json

end RobotsExclusion
