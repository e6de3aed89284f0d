import RobotsExclusion.Toml.Draft
import RobotsExclusion.Toml.Key
import RobotsExclusion.Toml.Scalar

/-!
# Documents read from TOML

Tokens are put together to a document by a machine that goes from line to line.  A
line is a header, which tells where the following entries belong, or an entry; the
value of an entry may go over several lines inside brackets and braces.  The arrays
and inline tables that are still open are kept, the innermost first.
-/

namespace RobotsExclusion

namespace Toml

/-- An array or an inline table that is still open around the current place. -/
inductive Frame
  /-- An array with its items so far, newest first. -/
  | array (items : List Document)
  /-- An inline table with its entries so far and the key whose value comes next. -/
  | inlineTable (entries : Draft) (key : Key)

/-- What has to come next within the value of an entry. -/
inductive Position
  /-- A value after an equals sign, which in an inline table may begin on a later
  line. -/
  | value
  /-- More of a bare value. -/
  | bare (spelling : List Char)
  /-- More of a bare value after one space, or what follows the value. -/
  | gap (spelling : List Char)
  /-- An item of an array, or its end. -/
  | item (items : List Document)
  /-- A comma after an item, or the end of the array. -/
  | afterItem (items : List Document)
  /-- A key of an inline table, or the end of the table before the key has begun. -/
  | key (entries : Draft) (scan : KeyScan)
  /-- The equals sign after a key of an inline table that ended with its line. -/
  | equals (entries : Draft) (inner : Key)
  /-- A comma after an entry, or the end of the inline table. -/
  | afterEntry (entries : Draft)

/-- What has to come next. -/
inductive Stage
  /-- A header, an entry or nothing on a line. -/
  | lineStart
  /-- After the first bracket of a header. -/
  | headerOpened
  | header (isItem : Bool) (scan : KeyScan)
  /-- The second closing bracket of a header. -/
  | headerClosing (key : Key)
  | entryKey (scan : KeyScan)
  | entryValue (key : Key) (position : Position) (frames : List Frame)
  | lineEnd

/-- The state of the machine: the document so far, the table that entries belong
to, and what has to come next. -/
structure Machine where
  root : Draft
  here : List String
  stage : Stage

/-- How deep arrays and inline tables may be nested. -/
def depthLimit : Nat :=
  80

namespace Machine

def enter (machine : Machine) (stage : Stage) : Machine :=
  { machine with stage := stage }

/-- Enters the value of an entry into the document. -/
def assign (machine : Machine) (key : Key) (value : Document) : Option Machine :=
  (Draft.within .implied (Draft.assign key.path key.name value) machine.here .header
    machine.root).map fun root => ⟨root, machine.here, .lineEnd⟩

def openSection (machine : Machine) (isItem : Bool) (key : Key) : Option Machine :=
  let change := if isItem then Draft.append key.name else Draft.define key.name
  (Draft.within .implied change key.path .header machine.root).map fun root =>
    ⟨root, key.path ++ [key.name], .lineEnd⟩

def deliver (machine : Machine) (key : Key) (value : Document) :
    List Frame → Option Machine
  | [] => machine.assign key value
  | .array items :: frames =>
      some (machine.enter (.entryValue key (.afterItem (value :: items)) frames))
  | .inlineTable entries inner :: frames =>
      (Draft.assign inner.path inner.name value .header entries).map fun entries =>
        machine.enter (.entryValue key (.afterEntry entries) frames)

/-- Opens an array or an inline table, unless it would be nested too deep. -/
def opening (machine : Machine) (key : Key) (position : Position) (frames : List Frame) :
    Option Machine :=
  if frames.length < depthLimit then
    some (machine.enter (.entryValue key position frames))
  else
    none

def beginValue (machine : Machine) (key : Key) (frames : List Frame) (token : Token) :
    Option Machine :=
  match token with
  | .openBracket => machine.opening key (.item []) frames
  | .openBrace => machine.opening key (.key [] KeyScan.start) frames
  | .text content _ => machine.deliver key (.text (String.ofList content)) frames
  | .bare spelling => some (machine.enter (.entryValue key (.bare spelling) frames))
  | _ => none

def complete (machine : Machine) (key : Key) (frames : List Frame)
    (spelling : List Char) : Option Machine :=
  (scalar? spelling).bind fun value => machine.deliver key value frames

/-- Reads one token within a value, but not within a bare one. -/
def advanceValue (machine : Machine) (key : Key) (position : Position)
    (frames : List Frame) (token : Token) : Option Machine :=
  match position with
  | .value =>
      match token with
      | .blank _ => some machine
      | .newline => if frames.isEmpty then none else some machine
      | _ => machine.beginValue key frames token
  | .item items =>
      match token with
      | .blank _ => some machine
      | .newline => some machine
      | .closeBracket => machine.deliver key (.list items.reverse) frames
      | _ => machine.beginValue key (.array items :: frames) token
  | .afterItem items =>
      match token with
      | .blank _ => some machine
      | .newline => some machine
      | .comma => some (machine.enter (.entryValue key (.item items) frames))
      | .closeBracket => machine.deliver key (.list items.reverse) frames
      | _ => none
  | .key entries scan =>
      match token, scan.names with
      | .newline, [] => some machine
      | .newline, _ =>
          scan.finish.map fun inner =>
            machine.enter (.entryValue key (.equals entries inner) frames)
      | .closeBrace, [] => machine.deliver key (.table (Node.entriesDocument entries)) frames
      | .equals, _ =>
          scan.finish.map fun inner =>
            machine.enter (.entryValue key .value (.inlineTable entries inner :: frames))
      | _, _ =>
          (scan.advance token).map fun scan =>
            machine.enter (.entryValue key (.key entries scan) frames)
  | .equals entries inner =>
      match token with
      | .blank _ => some machine
      | .newline => some machine
      | .equals =>
          some (machine.enter
            (.entryValue key .value (.inlineTable entries inner :: frames)))
      | _ => none
  | .afterEntry entries =>
      match token with
      | .blank _ => some machine
      | .newline => some machine
      | .comma =>
          some (machine.enter (.entryValue key (.key entries KeyScan.start) frames))
      | .closeBrace => machine.deliver key (.table (Node.entriesDocument entries)) frames
      | _ => none
  | .bare _ => none
  | .gap _ => none

/-- Reads one token, but not within a bare value. -/
def advanceSettled (machine : Machine) (token : Token) : Option Machine :=
  match machine.stage with
  | .lineStart =>
      match token with
      | .blank _ => some machine
      | .newline => some machine
      | .openBracket => some (machine.enter .headerOpened)
      | _ =>
          (KeyScan.start.advance token).map fun scan => machine.enter (.entryKey scan)
  | .headerOpened =>
      match token with
      | .openBracket => some (machine.enter (.header true KeyScan.start))
      | _ =>
          (KeyScan.start.advance token).map fun scan =>
            machine.enter (.header false scan)
  | .header isItem scan =>
      match token with
      | .closeBracket =>
          scan.finish.bind fun key =>
            if isItem then
              some (machine.enter (.headerClosing key))
            else
              machine.openSection false key
      | _ => (scan.advance token).map fun scan => machine.enter (.header isItem scan)
  | .headerClosing key =>
      match token with
      | .closeBracket => machine.openSection true key
      | _ => none
  | .entryKey scan =>
      match token with
      | .equals =>
          scan.finish.map fun key => machine.enter (.entryValue key .value [])
      | _ => (scan.advance token).map fun scan => machine.enter (.entryKey scan)
  | .entryValue key position frames => machine.advanceValue key position frames token
  | .lineEnd =>
      match token with
      | .blank _ => some machine
      | .newline => some (machine.enter .lineStart)
      | _ => none

/-- Completes a bare value and reads the token that follows it. -/
def completeThen (machine : Machine) (key : Key) (frames : List Frame)
    (spelling : List Char) (token : Token) : Option Machine :=
  (machine.complete key frames spelling).bind fun completed =>
    completed.advanceSettled token

def advance (machine : Machine) (token : Token) : Option Machine :=
  match machine.stage with
  | .entryValue key (.bare spelling) frames =>
      match token with
      | .bare more =>
          some (machine.enter (.entryValue key (.bare (spelling ++ more)) frames))
      | .dot =>
          some (machine.enter (.entryValue key (.bare (spelling ++ ['.'])) frames))
      | .blank true => some (machine.enter (.entryValue key (.gap spelling) frames))
      | _ => machine.completeThen key frames spelling token
  | .entryValue key (.gap spelling) frames =>
      match token with
      | .bare more =>
          some (machine.enter (.entryValue key (.bare (spelling ++ ' ' :: more)) frames))
      | _ => machine.completeThen key frames spelling token
  | _ => machine.advanceSettled token

def finish (machine : Machine) : Option Document :=
  let settled :=
    match machine.stage with
    | .entryValue key (.bare spelling) [] => machine.complete key [] spelling
    | .entryValue key (.gap spelling) [] => machine.complete key [] spelling
    | _ => some machine
  settled.bind fun machine =>
    match machine.stage with
    | .lineStart => some (.table (Node.entriesDocument machine.root))
    | .lineEnd => some (.table (Node.entriesDocument machine.root))
    | _ => none

end Machine

def ofTokens? (tokens : List Token) : Option Document :=
  (tokens.foldlM Machine.advance ⟨[], [], .lineStart⟩).bind Machine.finish

def parse? (text : String) : Option Document :=
  (tokens? text.toList).bind ofTokens?

end Toml

end RobotsExclusion
