import RobotsExclusion.Config
import RobotsExclusion.Directive
import RobotsExclusion.Keyed

/-!
# Access tables

The paths of a group that an access directive mentions, each once and in the
order of first mention, with the outcome for that very path.  An allow settles
the outcome for good, whichever directive came first.
-/

namespace RobotsExclusion

/-- What a line says: nothing when its path is empty or its directive unknown. -/
def Line.directive? (line : Line) : Option Directive :=
  if line.path = "" then none else Directive.ofName? line.rule

/-- Whether each mentioned path is allowed, by first mention. -/
abbrev AccessTable :=
  Keyed Bool

namespace AccessTable

/-- Enters a line into a table; only access directives count. -/
def record (table : AccessTable) (line : Line) : AccessTable :=
  match line.directive? with
  | some .allow => Keyed.put line.path true table
  | some .disallow => Keyed.putNew line.path false table
  | some .noindex => table
  | none => table

def ofLines (lines : List Line) : AccessTable :=
  lines.foldl record []

end AccessTable

/-- The paths of the lines that forbid indexing, repetitions included. -/
def noindexPaths (lines : List Line) : List String :=
  (lines.filter fun line => line.directive? = some .noindex).map Line.path

end RobotsExclusion
