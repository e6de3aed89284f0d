import RobotsExclusion.CommandLine.Duration
import RobotsExclusion.CommandLine.Report

/-!
# The program

Reads the environment and the stored configuration, and writes the report of the
run.
-/

namespace RobotsExclusion

namespace CommandLine

def readEnvironment : IO (Keyed String) := do
  let names := Setting.all.filterMap Setting.environmentName?
  let entries ← names.mapM fun name => do
    return (← IO.getEnv name).map fun value => (name, value)
  return entries.filterMap id

/-- What the file system stores at a path.  The code 21 tells a directory from a path
that goes through a file; a path that is too long leads to nothing. -/
def readStored (path : String) : IO Stored := do
  try
    return .bytes (← IO.FS.readBinFile path)
  catch error =>
    match error with
    | .noFileOrDirectory .. => return .nothing
    | .inappropriateType _ 21 _ => return .directory
    | .inappropriateType .. => return .nothing
    | .invalidArgument .. => return .nothing
    | _ => return .unreadable (toString error)

/-- Writes a line of a report, performing the task that it is about. -/
def writeLine : OutputLine → IO Unit
  | .text content => IO.println content
  | .timed task => do
      let start ← IO.monoNanosNow
      let _ ← IO.lazyPure fun _ => task.perform
      let stop ← IO.monoNanosNow
      IO.println ("[" ++ task.label ++ "] Duration: " ++ durationText (stop - start))

def writeReport (report : Report) : IO Unit := do
  for line in report.output do
    writeLine line
  for message in report.messages do
    IO.eprintln message

end CommandLine

end RobotsExclusion

open RobotsExclusion RobotsExclusion.CommandLine

def main (arguments : List String) : IO UInt32 := do
  let report ←
    match Invocation.ofArguments arguments (← readEnvironment) with
    | .error stop => pure stop.report
    | .ok invocation => pure (invocation.report (← readStored invocation.config))
  writeReport report
  return report.code.toUInt32
