import RobotsExclusion.Document

/-!
# Drafts of TOML tables

While a TOML text is read, its tables remember how they came to be, because that
decides what may still be added to them.  A header defines a table once; a table
that was only passed by headers on the way to another one may still get its header;
a table that a dotted key made or passed grows by dotted keys and by headers below
it; arrays, inline tables and scalars are closed.
-/

namespace RobotsExclusion

namespace Toml

/-- How a table came to be. -/
inductive Origin
  /-- By its own header; the whole document and the items of arrays of tables too. -/
  | header
  /-- On the way of headers to deeper tables, and of no dotted key. -/
  | implied
  /-- On the way of a dotted key. -/
  | dotted
  deriving DecidableEq

/-- How a table counts once a path of a style has entered it.  Dotted keys do not
enter a table with a header, and an implied one becomes theirs. -/
def Origin.entered? (style : Origin) : Origin → Option Origin
  | .header => if style = .dotted then none else some .header
  | .implied => some (if style = .dotted then .dotted else .implied)
  | .dotted => some .dotted

/-- An entry of a draft. -/
inductive Node
  /-- A finished value. -/
  | value (document : Document)
  /-- A table that may still grow. -/
  | table (origin : Origin) (entries : List (String × Node))
  /-- An array of tables, of which only the latest may still grow; the earlier ones
  are listed newest first. -/
  | tables (latest : List (String × Node)) (earlier : List (List (String × Node)))

namespace Node

mutual

/-- The value that an entry has come to. -/
def document : Node → Document
  | .value document => document
  | .table _ entries => .table (entriesDocument entries)
  | .tables latest earlier =>
      .list ((Document.table (entriesDocument latest) :: earlierDocuments earlier).reverse)

/-- The values of the entries of a table. -/
def entriesDocument : List (String × Node) → List (String × Document)
  | [] => []
  | (name, node) :: rest => (name, node.document) :: entriesDocument rest

/-- The values of the earlier tables of an array, newest first. -/
def earlierDocuments : List (List (String × Node)) → List Document
  | [] => []
  | entries :: rest => .table (entriesDocument entries) :: earlierDocuments rest

end

end Node

abbrev Draft :=
  Keyed Node

namespace Draft

/-- Changes the table that a path leads to.  Missing tables on the way are made, and
remember the style of the path; of an array of tables the path enters the latest. -/
def within (style : Origin) (change : Origin → Draft → Option Draft) :
    (path : List String) → Origin → Draft → Option Draft
  | [], origin, draft => change origin draft
  | name :: path, _, draft =>
      match Keyed.get? name draft with
      | none =>
          (within style change path style []).map fun inner =>
            Keyed.put name (.table style inner) draft
      | some (.table origin entries) =>
          (Origin.entered? style origin).bind fun origin =>
            (within style change path origin entries).map fun inner =>
              Keyed.put name (.table origin inner) draft
      | some (.tables latest earlier) =>
          (within style change path .header latest).map fun inner =>
            Keyed.put name (.tables inner earlier) draft
      | some (.value _) => none

/-- Enters a value under a new name; a dotted key ends in a table of dotted keys. -/
def add (isDotted : Bool) (name : String) (document : Document) (origin : Origin)
    (draft : Draft) : Option Draft :=
  if isDotted ∧ origin ≠ .dotted then
    none
  else
    match Keyed.get? name draft with
    | none => some (Keyed.put name (.value document) draft)
    | some _ => none

/-- Enters a value under a key, whose names before the last are the path. -/
def assign (path : List String) (name : String) (document : Document)
    (origin : Origin) (draft : Draft) : Option Draft :=
  within .dotted (add (!path.isEmpty) name document) path origin draft

def define (name : String) (_ : Origin) (draft : Draft) : Option Draft :=
  match Keyed.get? name draft with
  | none => some (Keyed.put name (.table .header []) draft)
  | some (.table .implied entries) => some (Keyed.put name (.table .header entries) draft)
  | some _ => none

/-- Appends a table to an array of tables by its header. -/
def append (name : String) (_ : Origin) (draft : Draft) : Option Draft :=
  match Keyed.get? name draft with
  | none => some (Keyed.put name (.tables [] []) draft)
  | some (.tables latest earlier) =>
      some (Keyed.put name (.tables [] (latest :: earlier)) draft)
  | some _ => none

end Draft

end Toml

end RobotsExclusion
