import RobotsExclusion.Storage.Path

/-!
# Storage

What is stored at a path: nothing, a directory, or a file.  A listing of files and
directories answers this for every path.
-/

namespace RobotsExclusion

inductive FileError
  | isDirectory
  | invalidUtf8
  | described (reason : String)

/-- What a storage holds at a path. -/
inductive Stored
  | nothing
  | directory
  | bytes (content : ByteArray)
  /-- A file that cannot be read, for a reason in words. -/
  | unreadable (reason : String)

namespace FileError

def message : FileError → String
  | isDirectory => "Is a directory (os error 21)"
  | invalidUtf8 => "stream did not contain valid UTF-8"
  | described reason => reason

end FileError

namespace Stored

def ofText (text : String) : Stored :=
  bytes text.toUTF8

def text? : Stored → Except FileError String
  | nothing => .error (.described "No such file or directory (os error 2)")
  | directory => .error .isDirectory
  | bytes content =>
      match String.fromUTF8? content with
      | some text => .ok text
      | none => .error .invalidUtf8
  | unreadable reason => .error (.described reason)

end Stored

/-- What is stored at several places, newest first. -/
abbrev Listing :=
  List (Place × Stored)

namespace Listing

/-- Stores something at the place that a path leads to.  The places that the path
goes through are directories. -/
def put (path : String) (stored : Stored) (listing : Listing) : Listing :=
  let through := (Place.start path).followed (pathNames path)
  (Place.ofPath path, stored) :: through.map (fun place => (place, .directory)) ++ listing

/-- What is stored at a place: what was put there last.  The bases are directories. -/
def atPlace (listing : Listing) (place : Place) : Stored :=
  match listing.find? fun entry => entry.1 = place with
  | some entry => entry.2
  | none => if place.names.isEmpty then .directory else .nothing

/-- Follows one name; only a directory can be left by a name. -/
def step (listing : Listing) (place : Place) (name : PathName) : Option Place :=
  match listing.atPlace place with
  | .directory => some (place.follow name)
  | _ => none

/-- What is stored at a path.  The empty path and one that is too long lead to
nothing. -/
def stored (listing : Listing) (path : String) : Stored :=
  if path.isEmpty ∨ pathSizeLimit < path.utf8ByteSize then
    .nothing
  else
    match (pathNames path).foldlM listing.step (Place.start path) with
    | some place => listing.atPlace place
    | none => .nothing

end Listing

end RobotsExclusion
