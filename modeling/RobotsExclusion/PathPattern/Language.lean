import RobotsExclusion.PathPattern

/-!
# The language of a path pattern

The texts that a pattern describes, said without a search: its literal stretches
one after the other with arbitrary gaps between them, and an arbitrary tail unless
the pattern is anchored.
-/

namespace RobotsExclusion

namespace PathPattern

/-- A text that consists of a gap before each stretch and a tail. -/
inductive Spells (anchored : Bool) : (stretches : List (List Char)) → List Char → Prop
  | tail (rest : List Char) (closed : anchored = true → rest = []) :
      Spells anchored [] rest
  | gap (skipped : List Char) {stretch : List Char} {later : List (List Char)}
      {rest : List Char} (spelled : Spells anchored later rest) :
      Spells anchored (stretch :: later) (skipped ++ stretch ++ rest)

/-- The texts that a pattern describes. -/
def Describes (pattern : PathPattern) (text : List Char) : Prop :=
  ∃ rest, text = pattern.opening ++ rest ∧
    Spells pattern.anchored pattern.stretches rest

end PathPattern

end RobotsExclusion
