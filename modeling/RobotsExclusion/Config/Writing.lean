import RobotsExclusion.Config
import RobotsExclusion.Json.Writer
import RobotsExclusion.Toml.Writer

/-!
# Configurations written out

A configuration is written in either notation with all its parts in order, empty
ones included.
-/

namespace RobotsExclusion

def Line.toDocument (line : Line) : Document :=
  .table [("rule", .text line.rule), ("path", .text line.path)]

def Group.toDocument (group : Group) : Document :=
  .table
    [("agents", .list (group.agents.map .text)),
     ("rules", .list (group.rules.map Line.toDocument))]

/-- The TOML form of a directive line: an inline table. -/
def Line.toToml (line : Line) : List Char :=
  Toml.writeInlineTable
    [Toml.writeEntry "rule" (Toml.writeText line.rule),
     Toml.writeEntry "path" (Toml.writeText line.path)]

/-- The TOML form of a group: an item of the array of tables `groups`. -/
def Group.toToml (group : Group) : List Char :=
  "[[groups]]\n".toList ++
    Toml.writeEntry "agents" (Toml.writeArray (group.agents.map Toml.writeText)) ++
      '\n' :: Toml.writeEntry "rules" (Toml.writeArray (group.rules.map Line.toToml)) ++
        ['\n']

namespace Config

def toDocument (config : Config) : Document :=
  .table [("groups", .list (config.groups.map Group.toDocument))]

def toJson (config : Config) : String :=
  String.ofList (Json.write config.toDocument)

def toToml (config : Config) : String :=
  String.ofList (config.groups.flatMap Group.toToml)

end Config

end RobotsExclusion
