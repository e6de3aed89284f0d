/-!
# Paths

A path is a sequence of names between slashes.  Followed name by name from where it
starts, it leads to a place.
-/

namespace RobotsExclusion

abbrev PathName :=
  List Char

def pathSizeLimit : Nat :=
  4095

/-- The names between the slashes of a path, empty ones included. -/
def pathNames (path : String) : List PathName :=
  path.toList.splitOn '/'

/-- Whether a name in a path leads nowhere else. -/
def staysHere (name : PathName) : Bool :=
  name.isEmpty || name = ['.']

/-- Whether a name in a path leads to the enclosing directory. -/
def leadsUp (name : PathName) : Bool :=
  name = ['.', '.']

/-- The extension of the file that a path leads to: what follows the last dot of its
name, unless the name starts with that dot. -/
def fileExtension? (path : String) : Option String :=
  match ((pathNames path).filter fun name => !staysHere name).getLast? with
  | none => none
  | some name =>
      let reversed := name.reverse
      let extension := (reversed.takeWhile (· ≠ '.')).reverse
      let stem := reversed.drop (extension.length + 1)
      if leadsUp name ∨ stem.isEmpty then none else some (String.ofList extension)

/-- A directory from which places are counted. -/
inductive Base
  | root
  /-- The current directory, or the one so many levels above it. -/
  | current (above : Nat)
  deriving DecidableEq

/-- A place that a path can lead to: the names that lead there from a base, newest
first. -/
structure Place where
  base : Base
  names : List PathName
  deriving DecidableEq

namespace Place

/-- The place from which a path is followed. -/
def start (path : String) : Place :=
  ⟨if path.startsWith "/" then .root else .current 0, []⟩

/-- The directory that encloses a place; the root encloses itself. -/
def enclosing : Place → Place
  | ⟨base, _ :: names⟩ => ⟨base, names⟩
  | ⟨.root, []⟩ => ⟨.root, []⟩
  | ⟨.current above, []⟩ => ⟨.current (above + 1), []⟩

/-- The place that a name leads to from a directory. -/
def follow (place : Place) (name : PathName) : Place :=
  if staysHere name then
    place
  else if leadsUp name then
    place.enclosing
  else
    ⟨place.base, name :: place.names⟩

/-- The place that a path leads to, if it goes through directories only. -/
def ofPath (path : String) : Place :=
  (pathNames path).foldl follow (start path)

/-- The places from which names are followed one after the other. -/
def followed (place : Place) : List PathName → List Place
  | [] => []
  | name :: names => place :: followed (place.follow name) names

end Place

end RobotsExclusion
