import RobotsExclusion.Config.Reading
import RobotsExclusion.Json.Reader
import RobotsExclusion.Policy
import RobotsExclusion.Storage
import RobotsExclusion.Toml.Reader

/-!
# Loading configurations

A configuration is loaded from a text in one of the notations, or from a stored
file whose name tells the notation.  Whatever goes wrong on the way to a policy
is an error with a cause and a text.
-/

namespace RobotsExclusion

inductive LoadError
  /-- The text does not follow its notation. -/
  | malformed
  | misfit (found : Misfit)
  | notFound (path : String)
  /-- Any other reason, in words. -/
  | described (reason : String)

inductive ConfigError
  | load (error : LoadError)
  | file (error : FileError)

inductive PolicyError
  | config (error : ConfigError)
  | pattern (error : PatternError)

namespace LoadError

def message : LoadError → String
  | malformed => "malformed document"
  | misfit found => found.message
  | notFound path => "Configuration file not found: " ++ path
  | described reason => reason

end LoadError

namespace ConfigError

def message : ConfigError → String
  | load error => "Failed to load configuration: " ++ error.message
  | file error => "IO error: " ++ error.message

/-- The text of the underlying error, if there is one. -/
def source? : ConfigError → Option String
  | load _ => none
  | file error => some error.message

end ConfigError

namespace PolicyError

def message : PolicyError → String
  | config error => "Configuration error: " ++ error.message
  | pattern error => "Pattern error: " ++ error.message

def source : PolicyError → String
  | config error => error.message
  | pattern error => error.message

end PolicyError

namespace Config

def Format.parse? : Format → String → Option Document
  | .toml, text => Toml.parse? text
  | .json, text => Json.parse? text

def ofText (format : Format) (text : String) : Except LoadError Config :=
  match format.parse? text with
  | none => .error .malformed
  | some root =>
      match ofRoot root with
      | .error misfit => .error (.misfit misfit)
      | .ok config => .ok config

/-- Loads a configuration with the warnings that are reported on the way. -/
def load (format : Format) (text : String) : Except LoadError (Config × List String) :=
  (ofText format text).map fun config => (config, config.warnings)

/-- Loads a configuration from what is stored at a path. -/
def ofStored (path : String) (stored : Stored) : Except ConfigError Config :=
  match stored with
  | .nothing => .error (.load (.notFound path))
  | _ =>
      match stored.text? with
      | .error error => .error (.file error)
      | .ok text =>
          match ofText (Format.ofExtension (fileExtension? path)) text with
          | .error error => .error (.load error)
          | .ok config => .ok config

end Config

namespace Policy

/-- Loads and compiles the configuration that is stored at a path. -/
def ofStored (path : String) (stored : Stored) : Except PolicyError Policy :=
  match Config.ofStored path stored with
  | .error error => .error (.config error)
  | .ok config =>
      match ofConfig config with
      | .error error => .error (.pattern error)
      | .ok policy => .ok policy

end Policy

end RobotsExclusion
