import RobotsExclusion.Text.Search

/-!
# Path patterns

A path pattern describes the paths that begin in a given way.  A wildcard `*`
stands for any run of characters, and a final `$` demands that the path ends
where the pattern does.  A pattern is compiled into its literal stretches: the
text before the first wildcard, and the texts after each wildcard.  A candidate
is covered when the stretches occur in it one after the other, which a search
for the leftmost occurrence of each decides without going back.
-/

namespace RobotsExclusion

inductive PatternError.Cause
  /-- The matching program would be larger than the limit, given in bytes. -/
  | programTooLarge (limit : Nat)
  /-- Any other reason, in words. -/
  | described (reason : String)

structure PatternError where
  pattern : String
  cause : PatternError.Cause

namespace PatternError

def Cause.message : Cause → String
  | .programTooLarge limit =>
      "Compiled regex exceeds size limit of " ++ toString limit ++ " bytes."
  | .described reason => reason

def message (error : PatternError) : String :=
  "Invalid path pattern '" ++ error.pattern ++ "': " ++ error.cause.message

end PatternError

/-- A compiled path pattern: the text as written, its literal stretches, and
whether a match has to reach the end of the path. -/
structure PathPattern where
  source : String
  opening : List Char
  stretches : List (List Char)
  anchored : Bool

namespace PathPattern

/-- The specificity of the pattern `/`, which singles out no path. -/
def rootSpecificity : Nat :=
  1

/-- The text of a pattern from the root on: a pattern that starts with neither
`/` nor `*` lacks the leading `/`. -/
def rooted (raw : List Char) : List Char :=
  match raw with
  | '/' :: _ => raw
  | '*' :: _ => raw
  | _ => '/' :: raw

/-- Takes one final `$` off a text, and tells whether there was one. -/
def splitAnchor (text : List Char) : List Char × Bool :=
  if text.getLast? = some '$' then (text.dropLast, true) else (text, false)

/-- The literal stretches of a text: what comes before the first wildcard, and
what follows each wildcard. -/
def splitWildcards (text : List Char) : List Char × List (List Char) :=
  match text.splitOn '*' with
  | [] => ([], [])
  | opening :: stretches => (opening, stretches)

/-- Reads a pattern, whatever its size. -/
def parse (raw : String) : PathPattern :=
  let body := splitAnchor (rooted raw.toList)
  let literals := splitWildcards body.1
  ⟨raw, literals.1, literals.2, body.2⟩

def literal (pattern : PathPattern) : List Char :=
  pattern.opening ++ pattern.stretches.flatten

/-- The number of characters that a pattern spells out: longer means narrower. -/
def specificity (pattern : PathPattern) : Nat :=
  pattern.literal.length

/-- The bytes of one state of a matching program. -/
def stateSize : Nat :=
  32

/-- The bytes of a state from which the program can go on in several ways. -/
def choiceSize (ways : Nat) : Nat :=
  stateSize + 4 * ways

/-- In UTF-8 the characters fall into nine kinds, each with a range of values for every byte
of its encoding.  These are the lengths of their encodings. -/
def encodingLengths : List Nat :=
  [1, 2, 3, 3, 3, 3, 4, 4, 4]

/-- A wildcard is a choice between the end and one more character, which is a choice of its
kind, a state for each of its bytes, and the state where the kinds meet again. -/
def wildcardSize : Nat :=
  let bytes := encodingLengths.foldl (· + ·) 0
  choiceSize 2 + choiceSize encodingLengths.length + bytes * stateSize + stateSize

/-- The states around the pattern: the start of the path and the acceptance; for an anchored
pattern the end of the path and the state before it, and otherwise a search for an end, with
a choice, the range of all bytes and the state after them. -/
def frameSize (anchored : Bool) : Nat :=
  2 * stateSize + if anchored then 2 * stateSize else choiceSize 2 + (stateSize + 8) + stateSize

/-- The largest matching program, in bytes. -/
def programLimit : Nat :=
  10485760

/-- The bytes of the matching program of a pattern, with one state for each byte of literal
text.  A pattern without wildcards is compared directly and needs no program. -/
def programSize (pattern : PathPattern) : Nat :=
  if pattern.stretches.isEmpty then
    0
  else
    frameSize pattern.anchored + wildcardSize * pattern.stretches.length +
      stateSize * Text.byteCount pattern.literal

/-- Compiles a pattern, unless its matching program would be too large. -/
def compile (raw : String) : Except PatternError PathPattern :=
  let pattern := parse raw
  if pattern.programSize ≤ programLimit then
    .ok pattern
  else
    .error ⟨raw, .programTooLarge programLimit⟩

/-- Whether the stretches that follow wildcards occur in order in a text; the
last one has to close the text when the pattern is anchored. -/
def reach (anchored : Bool) : (stretches : List (List Char)) → (text : List Char) → Bool
  | [], text => !anchored || text.isEmpty
  | [last], text =>
      if anchored then last.isSuffixOf text else Text.occursIn last text
  | stretch :: next :: later, text =>
      match Text.afterFirst stretch text with
      | some remaining => reach anchored (next :: later) remaining
      | none => false

def covers (pattern : PathPattern) (path : String) : Bool :=
  match Text.afterStart pattern.opening path.toList with
  | some remaining => reach pattern.anchored pattern.stretches remaining
  | none => false

end PathPattern

end RobotsExclusion
