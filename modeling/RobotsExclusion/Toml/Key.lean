import RobotsExclusion.Toml.Token

/-!
# Keys in TOML

A key is a sequence of names with dots between them and blanks around either.  A
name is a bare run of letters, digits, underscores and hyphens, or a text on one
line.
-/

namespace RobotsExclusion

namespace Toml

/-- A key that has been read: the names on the way, and the last name. -/
structure Key where
  path : List String
  name : String

/-- A key that is being read: the names so far, newest first, and whether a name
has to come next. -/
structure KeyScan where
  names : List String
  awaiting : Bool

/-- How many names may stand before the last one. -/
def pathLimit : Nat :=
  79

def isNameChar (c : Char) : Bool :=
  c.isAlphanum || c = '_' || c = '-'

namespace KeyScan

def start : KeyScan :=
  ⟨[], true⟩

def enter (scan : KeyScan) (name : List Char) : Option KeyScan :=
  if scan.awaiting then some ⟨String.ofList name :: scan.names, false⟩ else none

/-- Reads one token; none when it cannot belong to a key. -/
def advance (scan : KeyScan) (token : Token) : Option KeyScan :=
  match token with
  | .blank _ => some scan
  | .dot => if scan.awaiting then none else some { scan with awaiting := true }
  | .bare name => if name.all isNameChar then scan.enter name else none
  | .text name false => scan.enter name
  | _ => none

def finish (scan : KeyScan) : Option Key :=
  match scan.awaiting, scan.names with
  | false, name :: path =>
      if path.length ≤ pathLimit then some ⟨path.reverse, name⟩ else none
  | _, _ => none

end KeyScan

end Toml

end RobotsExclusion
