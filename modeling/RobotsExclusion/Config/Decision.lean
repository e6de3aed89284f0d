import RobotsExclusion.AccessTable
import RobotsExclusion.AgentPattern
import RobotsExclusion.PathPattern
import RobotsExclusion.Ranking

/-!
# Decisions read off a configuration

What a configuration says about a crawler and a path, without compiling or ranking
anything: the most specific declared agent that covers the crawler selects a group,
and in that group the most specific mentioned path that covers the requested one
decides.  A compiled policy has to answer alike.
-/

namespace RobotsExclusion

def pathCovers (declared path : String) : Bool :=
  (PathPattern.parse declared).covers path

def pathSpecificity (declared : String) : Nat :=
  (PathPattern.parse declared).specificity

namespace Group

/-- The paths that the access directives of a group mention, each once, by first
mention. -/
def accessPaths (group : Group) : List String :=
  ((group.rules.filter fun line => line.directive?.any Directive.isAccess).map
    Line.path).eraseDups

/-- Whether a group has an allow for exactly this declared path. -/
def grants (group : Group) (declared : String) : Bool :=
  group.rules.any fun line => line.directive? = some .allow ∧ line.path = declared

def permits (group : Group) (path : String) : Bool :=
  let covering := group.accessPaths.filter fun declared => pathCovers declared path
  match mostSpecific? pathSpecificity covering with
  | some declared => group.grants declared
  | none => true

def permitsIndexing (group : Group) (path : String) : Bool :=
  !(noindexPaths group.rules).any fun declared => pathCovers declared path

/-- Whether a group shuts its crawlers out: it allows no path, and disallows none
that is more specific than the root. -/
def excludes (group : Group) : Bool :=
  group.accessPaths.all fun declared =>
    !group.grants declared && decide (pathSpecificity declared ≤ PathPattern.rootSpecificity)

end Group

namespace Config

/-- The declared agents with their groups, in source order. -/
def declarations (config : Config) : List (AgentPattern × Group) :=
  config.groups.flatMap fun group =>
    group.agents.map fun name => (AgentPattern.ofName name, group)

/-- The declared agent that applies to a crawler, with its group. -/
def declaration? (config : Config) (identity : String) : Option (AgentPattern × Group) :=
  mostSpecific? (fun declaration => declaration.1.specificity)
    (config.declarations.filter fun declaration => declaration.1.covers identity)

def permits (config : Config) (identity path : String) : Bool :=
  match config.declaration? identity with
  | some declaration => declaration.2.permits path
  | none => true

end Config

end RobotsExclusion
