import RobotsExclusion.AccessTable
import RobotsExclusion.AgentPattern
import RobotsExclusion.PathPattern
import RobotsExclusion.Ranking

/-!
# Policies

A policy is a compiled configuration.  It holds one rule group for each declared
agent, ranked by the agents' specificity, and in each group the access rules and
the indexing rules, ranked by the specificity of their paths.  The first group
that covers a crawler applies to it, and within that group the first rule that
covers a path decides.  Where no group or no rule applies there is no restriction.
-/

namespace RobotsExclusion

/-- A path pattern with the outcome for the paths it covers. -/
structure Rule where
  pattern : PathPattern
  allow : Bool

namespace Rule

def specificity (rule : Rule) : Nat :=
  rule.pattern.specificity

def compile (path : String) (allow : Bool) : Except PatternError Rule :=
  (PathPattern.compile path).map fun pattern => ⟨pattern, allow⟩

/-- Compiles rules in the given order; the first refused pattern is reported. -/
def compileAll : List (String × Bool) → Except PatternError (List Rule)
  | [] => .ok []
  | (path, allow) :: rest =>
      match compile path allow with
      | .error error => .error error
      | .ok rule => (compileAll rest).map (rule :: ·)

/-- The outcome of the first rule that covers a path; without one the path is
allowed. -/
def outcome (rules : List Rule) (path : String) : Bool :=
  match rules.find? fun rule => rule.pattern.covers path with
  | some rule => rule.allow
  | none => true

end Rule

/-- The rules that apply to the crawlers covered by one declared agent. -/
structure RuleGroup where
  agent : AgentPattern
  access : List Rule
  indexing : List Rule

namespace RuleGroup

def specificity (group : RuleGroup) : Nat :=
  group.agent.specificity

/-- The access rules of a group, ranked. -/
def compileAccess (group : Group) : Except PatternError (List Rule) :=
  (Rule.compileAll (AccessTable.ofLines group.rules)).map
    (mostSpecificFirst Rule.specificity)

/-- The indexing rules of a group, ranked. -/
def compileIndexing (group : Group) : Except PatternError (List Rule) :=
  (Rule.compileAll ((noindexPaths group.rules).map fun path => (path, false))).map
    (mostSpecificFirst Rule.specificity)

/-- The rule groups of a group, one for each of its agents.  The patterns are
compiled even where no agent is declared. -/
def ofGroup (group : Group) : Except PatternError (List RuleGroup) :=
  match compileAccess group with
  | .error error => .error error
  | .ok access =>
      (compileIndexing group).map fun indexing =>
        group.agents.map fun name => ⟨AgentPattern.ofName name, access, indexing⟩

def ofGroups : List Group → Except PatternError (List RuleGroup)
  | [] => .ok []
  | group :: rest =>
      match ofGroup group with
      | .error error => .error error
      | .ok compiled => (ofGroups rest).map (compiled ++ ·)

/-- Whether the access rules leave nothing worth fetching: there is no allow, and
no disallow singles out a path. -/
def disallowsAll (group : RuleGroup) : Bool :=
  !group.access.any fun rule =>
    rule.allow || decide (PathPattern.rootSpecificity < rule.specificity)

end RuleGroup

/-- The ranked rule groups of a configuration. -/
structure Policy where
  groups : List RuleGroup

namespace Policy

/-- The policy without rules, which restricts nobody. -/
def unrestricted : Policy :=
  ⟨[]⟩

def ofConfig (config : Config) : Except PatternError Policy :=
  (RuleGroup.ofGroups config.groups).map fun groups =>
    ⟨mostSpecificFirst RuleGroup.specificity groups⟩

/-- The place of the group that applies to a crawler. -/
def position? (policy : Policy) (identity : String) : Option Nat :=
  let lowered := Text.lowercase identity.toList
  policy.groups.findIdx? fun group => group.agent.coversLowered lowered

/-- The group that applies to a crawler. -/
def group? (policy : Policy) (identity : String) : Option RuleGroup :=
  let lowered := Text.lowercase identity.toList
  policy.groups.find? fun group => group.agent.coversLowered lowered

/-- Whether a crawler may fetch a path. -/
def allows (policy : Policy) (identity path : String) : Bool :=
  match policy.group? identity with
  | some group => Rule.outcome group.access path
  | none => true

/-- Whether a crawler may index a path. -/
def indexes (policy : Policy) (identity path : String) : Bool :=
  match policy.group? identity with
  | some group => Rule.outcome group.indexing path
  | none => true

/-- Whether a crawler is shut out of the whole site. -/
def disallowsAll (policy : Policy) (identity : String) : Bool :=
  match policy.group? identity with
  | some group => group.disallowsAll
  | none => false

end Policy

end RobotsExclusion
