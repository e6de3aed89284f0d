import RobotsExclusion.Text.Lowercase

/-!
# Configurations

A configuration lists groups in source order; a group names the agents it is for
and holds its directive lines.  Nothing is checked here: unknown directives,
empty paths and groups without agents are all kept as written.
-/

namespace RobotsExclusion

/-- A directive line: a directive name and the path pattern it is about. -/
structure Line where
  rule : String
  path : String
  deriving DecidableEq

/-- The lines that a list of agents shares. -/
structure Group where
  agents : List String
  rules : List Line
  deriving DecidableEq

structure Config where
  groups : List Group
  deriving DecidableEq

namespace Config

/-- The places of the groups that declare no agent and so never apply. -/
def unusedGroups (config : Config) : List Nat :=
  (config.groups.zipIdx.filter fun entry => entry.1.agents.isEmpty).map Prod.snd

def warnings (config : Config) : List String :=
  config.unusedGroups.map fun index =>
    "Group declares no agents and will never match group=" ++ toString index

inductive Format
  | toml
  | json
  deriving DecidableEq

/-- The notation that a file name extension stands for: JSON for `json` in any
ASCII case, TOML for anything else and for none. -/
def Format.ofExtension (extension : Option String) : Format :=
  match extension with
  | some text =>
      if Text.lowercaseAscii text.toList = "json".toList then .json else .toml
  | none => .toml

end Config

end RobotsExclusion
