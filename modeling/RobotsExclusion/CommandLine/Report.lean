import RobotsExclusion.CommandLine.Arguments
import RobotsExclusion.Config.Loading
import RobotsExclusion.Json.Writer

/-!
# Reports of runs

A run ends with an exit code after it has written lines.  A line is a text or tells
how long a task took, which only the one who performs the task can say.  Messages
about the run are kept apart from its output.
-/

namespace RobotsExclusion

namespace CommandLine

inductive Task
  | create (config : Config)
  | answer (policy : Policy) (iterations : Nat)

inductive OutputLine
  | text (content : String)
  | timed (task : Task)

/-- The result of a run: its exit code, its output, and the messages about it. -/
structure Report where
  code : Nat
  output : List OutputLine
  messages : List String

/-- The agents and paths that a benchmark asks about. -/
def benchQuestions : List (String × String) :=
  [("googlebot", "/foo/bar"), ("googlebot", "/bar/baz"), ("*", "/foo/quux"),
   ("*", "/quux/baz")]

namespace Task

def label : Task → String
  | create _ => "create guard"
  | answer _ _ => "use guard"

/-- What a task comes to: the number of rule groups, or the number of granted
requests. -/
def perform : Task → Nat
  | create config =>
      match Policy.ofConfig config with
      | .ok policy => policy.groups.length
      | .error _ => 0
  | answer policy iterations =>
      iterations.repeat
        (fun granted =>
          granted + benchQuestions.countP fun question =>
            policy.allows question.1 question.2)
        0

end Task

namespace Report

def version : Report :=
  ⟨0, [.text "robots-guard 0.1.0"], []⟩

def refused (error : UsageError) : Report :=
  ⟨2, [], ["error: " ++ error.message]⟩

/-- The report of a run that failed after some output. -/
def failed (output : List OutputLine) (problem : String) : Report :=
  ⟨1, output, ["Error: " ++ problem]⟩

def answered (answer : Bool) : Report :=
  ⟨0, [.text (if answer then "true" else "false")], []⟩

end Report

def Query.report (config : Config) (query : Query) : Report :=
  match query, Policy.ofConfig config with
  | .allowed agent path, .ok policy => .answered (policy.allows agent path)
  | .indexable agent path, .ok policy => .answered (policy.indexes agent path)
  | .disallowAll agent, .ok policy => .answered (policy.disallowsAll agent)
  | .bench iterations, .ok policy =>
      ⟨0, [.timed (.create config), .timed (.answer policy iterations)], []⟩
  | .bench _, .error error => .failed [.timed (.create config)] error.message
  | _, .error error => .failed [] error.message

/-- The levels of log messages, the gravest first. -/
def logLevels : List String :=
  ["error", "warn", "info", "debug", "trace"]

def LogFormat.line (format : LogFormat) (level message : String) : String :=
  match format with
  | .pretty => level ++ ": " ++ message
  | .json =>
      String.ofList
        (Json.write (.table [("level", .text level), ("message", .text message)]))

/-- Logs a message, unless its level is not asked for. -/
def Invocation.log (invocation : Invocation) (level message : String) : List String :=
  let asked := logLevels.takeWhile (· ≠ invocation.logLevel)
  if level = invocation.logLevel ∨ (asked.length < logLevels.length ∧ level ∈ asked) then
    [invocation.logFormat.line level message]
  else
    []

/-- The report of a run, given what is stored at the path of its configuration. -/
def Invocation.report (invocation : Invocation) (stored : Stored) : Report :=
  match Config.ofStored invocation.config stored with
  | .error error => .failed [] error.message
  | .ok config =>
      let report := invocation.query.report config
      let warnings := config.warnings.flatMap (invocation.log "warn")
      { report with messages := warnings ++ report.messages }

/-- The report of arguments that ask for no run. -/
def Stop.report : Stop → Report
  | .version => .version
  | .refused error => .refused error

/-- The report of a run with given arguments. -/
def run (arguments : List String) (environment : Keyed String)
    (stored : String → Stored) : Report :=
  match Invocation.ofArguments arguments environment with
  | .error stop => stop.report
  | .ok invocation => invocation.report (stored invocation.config)

end CommandLine

end RobotsExclusion
