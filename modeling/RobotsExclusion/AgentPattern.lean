import RobotsExclusion.Text.Blank
import RobotsExclusion.Text.Lowercase
import RobotsExclusion.Text.Search

/-!
# Agent patterns

A declared agent covers the crawlers whose identity contains its name, whatever
the case of either.  The name `*`, and a blank name, cover every crawler.
-/

namespace RobotsExclusion

/-- A declared agent: the name as written, and the lower-case token that an
identity has to contain; without a token every identity is covered. -/
structure AgentPattern where
  source : String
  token : Option (List Char)

namespace AgentPattern

def ofName (name : String) : AgentPattern :=
  let trimmed := Text.trim name.toList
  if trimmed.isEmpty ∨ trimmed = ['*'] then
    ⟨name, none⟩
  else
    ⟨name, some (Text.lowercase trimmed)⟩

def isWildcard (agent : AgentPattern) : Bool :=
  agent.token.isNone

/-- The length of the token: longer means narrower, and a wildcard is the widest. -/
def specificity (agent : AgentPattern) : Nat :=
  match agent.token with
  | some token => token.length
  | none => 0

/-- Whether the agent covers an identity that is in lower case already. -/
def coversLowered (agent : AgentPattern) (lowered : List Char) : Bool :=
  match agent.token with
  | some token => Text.occursIn token lowered
  | none => true

def covers (agent : AgentPattern) (identity : String) : Bool :=
  agent.coversLowered (Text.lowercase identity.toList)

end AgentPattern

end RobotsExclusion
