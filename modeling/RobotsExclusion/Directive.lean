import RobotsExclusion.Text.Blank
import RobotsExclusion.Text.Lowercase

/-!
# Directives

The directive names that have an effect.  A name is read without its padding and
whatever the case of its ASCII letters; every other name is unknown.
-/

namespace RobotsExclusion

/-- What a line of a group says about its path. -/
inductive Directive
  | allow
  | disallow
  | noindex
  deriving DecidableEq

namespace Directive

def name : Directive → String
  | .allow => "allow"
  | .disallow => "disallow"
  | .noindex => "noindex"

def ofName? (name : String) : Option Directive :=
  let plain := Text.lowercaseAscii (Text.trim name.toList)
  [allow, disallow, noindex].find? fun directive => plain = directive.name.toList

/-- Whether a directive governs fetching rather than indexing. -/
def isAccess : Directive → Bool
  | .allow => true
  | .disallow => true
  | .noindex => false

end Directive

end RobotsExclusion
