import RobotsExclusion.Text.Casing.Context
import RobotsExclusion.Text.Casing.Runs

/-!
# Lower case of a text

Each letter has its lower-case letters independently of the others, with one
exception: a capital sigma that ends a word becomes a final sigma.  Hence the
lower case of a whole text can differ from the joined lower cases of its parts.
-/

namespace RobotsExclusion.Text

/-- The lower-case letters of one character on its own. -/
def lowerLetter (c : Char) : List Char :=
  if c = 'İ' then
    ['i', '\u0307']
  else
    match caseRuns.findSome? (·.lower? c.toNat) with
    | some code => [Char.ofNat code]
    | none => [c]

/-- The lower case of a capital sigma: final when a cased letter comes before it
and none comes after it.  `before` is read backwards. -/
def lowerSigma (before after : List Char) : Char :=
  if startsCased before && !startsCased after then 'ς' else 'σ'

/-- The lower case of a text that follows `before`, which is read backwards. -/
def lowercaseAfter : (before text : List Char) → List Char
  | _, [] => []
  | before, c :: after =>
      (if c = 'Σ' then [lowerSigma before after] else lowerLetter c) ++
        lowercaseAfter (c :: before) after

def lowercase (text : List Char) : List Char :=
  lowercaseAfter [] text

/-- Replaces the ASCII capitals alone. -/
def lowercaseAscii (text : List Char) : List Char :=
  text.map Char.toLower

end RobotsExclusion.Text
