import RobotsExclusion.Keyed
import RobotsExclusion.Number.Powers
import RobotsExclusion.Text.Digits
import RobotsExclusion.Text.Search

/-!
# Command line arguments

The arguments are settings, then a command with its operands.  The settings of the
whole program stand before the command and may come from the environment instead;
the settings of a command follow it.  Arguments are read one after the other, and a
request for the version ends the reading as soon as it is met.
-/

namespace RobotsExclusion

namespace CommandLine

inductive Command
  | allowed
  | indexable
  | disallowAll
  | bench
  deriving DecidableEq

/-- What takes a value. -/
inductive Setting
  | config
  | logLevel
  | logFormat
  | iterations
  deriving DecidableEq

inductive UsageError
  | unknownOption (spelling : String)
  | unknownCommand (name : String)
  | unexpectedOperand (operand : String)
  | unexpectedValue (option : String)
  | missingValue (setting : Setting)
  | repeated (setting : Setting)
  | invalidValue (setting : Setting) (value : String)
  | missingSetting (setting : Setting)
  | missingCommand
  | wrongOperands (command : Command)

/-- Why the reading of arguments ended early. -/
inductive Stop
  | version
  | refused (error : UsageError)

inductive Query
  | allowed (agent path : String)
  | indexable (agent path : String)
  | disallowAll (agent : String)
  | bench (iterations : Nat)

/-- How messages about the run are written. -/
inductive LogFormat
  | pretty
  | json

structure Invocation where
  config : String
  logLevel : String
  logFormat : LogFormat
  query : Query

namespace Command

def name : Command → String
  | allowed => "allowed"
  | indexable => "indexable"
  | disallowAll => "disallow-all"
  | bench => "bench"

def ofName? (name : String) : Option Command :=
  [allowed, indexable, disallowAll, bench].find? fun command => command.name = name

end Command

def LogFormat.ofName? : String → Option LogFormat
  | "pretty" => some pretty
  | "json" => some json
  | _ => none

/-- Reads a count that fits into 32 bits. -/
def count? (text : String) : Option Nat :=
  let parts := Text.splitSign text.toList
  let value := Text.signed parts.1 (Text.decimalValue parts.2)
  if !parts.2.isEmpty && parts.2.all Char.isDigit && 0 ≤ value && value < twoTo 32 then
    some value.toNat
  else
    none

namespace Setting

def name : Setting → String
  | config => "config"
  | logLevel => "log-level"
  | logFormat => "log-format"
  | iterations => "iterations"

def letter? : Setting → Option Char
  | config => some 'c'
  | iterations => some 'i'
  | _ => none

def environmentName? : Setting → Option String
  | config => some "ROBOTS_GUARD_CONFIG"
  | logLevel => some "ROBOTS_GUARD_LOG_LEVEL"
  | logFormat => some "ROBOTS_GUARD_LOG_FORMAT"
  | iterations => none

/-- The command that a setting follows; none for those of the whole program. -/
def command? : Setting → Option Command
  | iterations => some .bench
  | _ => none

/-- Whether a value makes sense for a setting. -/
def accepts : Setting → String → Bool
  | logFormat, value => (LogFormat.ofName? value).isSome
  | iterations, value => (count? value).isSome
  | _, _ => true

def all : List Setting :=
  [config, logLevel, logFormat, iterations]

/-- The setting with a long name, after a command or before any. -/
def ofName? (command : Option Command) (name : String) : Option Setting :=
  all.find? fun setting => setting.command? = command ∧ setting.name = name

/-- The setting with a short name, after a command or before any. -/
def ofLetter? (command : Option Command) (letter : Char) : Option Setting :=
  all.find? fun setting => setting.command? = command ∧ setting.letter? = some letter

end Setting

/-- The arguments that have been read. -/
structure Scan where
  values : List (Setting × String)
  /-- The setting whose value comes next. -/
  pending : Option Setting
  command : Option Command
  /-- The operands so far, newest first. -/
  operands : List String
  /-- Whether the remaining arguments are operands whatever they look like. -/
  literal : Bool

namespace Scan

def start : Scan :=
  ⟨[], none, none, [], false⟩

def value? (scan : Scan) (setting : Setting) : Option String :=
  (scan.values.find? fun entry => entry.1 = setting).map Prod.snd

def store (scan : Scan) (setting : Setting) (value : String) : Except Stop Scan :=
  if (scan.value? setting).isSome then
    .error (.refused (.repeated setting))
  else if setting.accepts value then
    .ok { scan with values := (setting, value) :: scan.values, pending := none }
  else
    .error (.refused (.invalidValue setting value))

/-- Reads a setting whose value may be attached. -/
def readSetting (scan : Scan) (setting : Setting) (attached : Option (List Char)) :
    Except Stop Scan :=
  match attached with
  | some value => scan.store setting (String.ofList value)
  | none => .ok { scan with pending := some setting }

/-- Reads an argument with two hyphens in front. -/
def readLong (scan : Scan) (text : List Char) : Except Stop Scan :=
  let parts := Text.splitAtFirst (· = '=') text
  let name := String.ofList parts.1
  match Setting.ofName? scan.command name with
  | some setting => scan.readSetting setting parts.2
  | none =>
      if name = "version" ∧ scan.command = none then
        if parts.2.isSome then
          .error (.refused (.unexpectedValue name))
        else
          .error .version
      else
        .error (.refused (.unknownOption name))

/-- Reads an argument with one hyphen in front; a value follows the letter at once
or after an equals sign. -/
def readShort (scan : Scan) (letter : Char) (rest : List Char) : Except Stop Scan :=
  match Setting.ofLetter? scan.command letter with
  | some setting =>
      match rest with
      | [] => scan.readSetting setting none
      | '=' :: value => scan.readSetting setting (some value)
      | value => scan.readSetting setting (some value)
  | none =>
      if letter = 'V' ∧ scan.command = none then
        .error .version
      else
        .error (.refused (.unknownOption (String.singleton letter)))

def readOperand (scan : Scan) (argument : String) : Except Stop Scan :=
  match scan.command with
  | some _ => .ok { scan with operands := argument :: scan.operands }
  | none => .error (.refused (.unexpectedOperand argument))

def readWord (scan : Scan) (argument : String) : Except Stop Scan :=
  match scan.command, Command.ofName? argument with
  | some _, _ => scan.readOperand argument
  | none, some command => .ok { scan with command := some command }
  | none, none => .error (.refused (.unknownCommand argument))

def readFresh (scan : Scan) (argument : String) : Except Stop Scan :=
  if scan.literal then
    scan.readOperand argument
  else if argument = "--" then
    .ok { scan with literal := true }
  else
    match argument.toList with
    | '-' :: '-' :: long => scan.readLong long
    | '-' :: letter :: rest => scan.readShort letter rest
    | _ => scan.readWord argument

/-- Reads one argument.  A pending value does not look like an option. -/
def advance (scan : Scan) (argument : String) : Except Stop Scan :=
  match scan.pending with
  | none => scan.readFresh argument
  | some setting =>
      if argument.startsWith "-" ∧ argument ≠ "-" then
        .error (.refused (.missingValue setting))
      else
        scan.store setting argument

/-- The value of a setting, from the arguments or else from the environment. -/
def valueOr? (scan : Scan) (environment : Keyed String) (setting : Setting) :
    Except UsageError (Option String) :=
  match scan.value? setting with
  | some value => .ok (some value)
  | none =>
      match setting.environmentName?.bind fun name => Keyed.get? name environment with
      | none => .ok none
      | some value =>
          if setting.accepts value then
            .ok (some value)
          else
            .error (.invalidValue setting value)

def query? (scan : Scan) : Except UsageError Query :=
  match scan.command, scan.operands.reverse with
  | none, _ => .error .missingCommand
  | some .allowed, [agent, path] => .ok (.allowed agent path)
  | some .indexable, [agent, path] => .ok (.indexable agent path)
  | some .disallowAll, [agent] => .ok (.disallowAll agent)
  | some .bench, [] => .ok (.bench (((scan.value? .iterations).bind count?).getD 1))
  | some command, _ => .error (.wrongOperands command)

def finish (scan : Scan) (environment : Keyed String) : Except UsageError Invocation := do
  if let some setting := scan.pending then
    throw (.missingValue setting)
  let query ← scan.query?
  let config ← scan.valueOr? environment .config
  let logLevel ← scan.valueOr? environment .logLevel
  let logFormat ← scan.valueOr? environment .logFormat
  match config with
  | none => throw (.missingSetting .config)
  | some config =>
      return ⟨config, logLevel.getD "warn",
        (logFormat.bind LogFormat.ofName?).getD .pretty, query⟩

end Scan

def Invocation.ofArguments (arguments : List String) (environment : Keyed String) :
    Except Stop Invocation :=
  match arguments.foldlM Scan.advance Scan.start with
  | .error stop => .error stop
  | .ok scan =>
      match scan.finish environment with
      | .error error => .error (.refused error)
      | .ok invocation => .ok invocation

namespace UsageError

def message : UsageError → String
  | unknownOption spelling => "unexpected option '" ++ spelling ++ "'"
  | unknownCommand name => "unrecognized subcommand '" ++ name ++ "'"
  | unexpectedOperand operand => "unexpected argument '" ++ operand ++ "'"
  | unexpectedValue option => "the option '" ++ option ++ "' takes no value"
  | missingValue setting => "a value is required for '" ++ setting.name ++ "'"
  | repeated setting => "'" ++ setting.name ++ "' cannot be used multiple times"
  | invalidValue setting value =>
      "invalid value '" ++ value ++ "' for '" ++ setting.name ++ "'"
  | missingSetting setting => "'" ++ setting.name ++ "' was not provided"
  | missingCommand => "a subcommand is required but was not provided"
  | wrongOperands command => "wrong number of arguments for '" ++ command.name ++ "'"

end UsageError

end CommandLine

end RobotsExclusion
