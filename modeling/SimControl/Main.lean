import SimControl.CommandLine.Report
import Std.Time.DateTime.Timestamp

/-!
# The program

Reads the arguments, the environment and the files that they name, and prints the report of the
task. Log entries go to the log file if there is one, and to standard error if not.
-/

namespace SimControl.CommandLine

/-- The variables that can change what the program does. -/
def variableNames : List String :=
  [Settings.timeoutVariable, Settings.retriesVariable, Settings.retryDelayVariable,
    Settings.sessionVariable, LogFilter.variableName]

def readEnvironment : IO Settings.Environment := do
  let values ← variableNames.filterMapM fun name => do
    return (← IO.getEnv name).map fun value => (name, value)
  return fun name => values.lookup name

def readFile? (path : String) : IO (Option String) := do
  try
    return some (← IO.FS.readFile path)
  catch _ => return none

def openLog (path : Option String) : IO (Except String IO.FS.Stream) := do
  match path with
  | none => return .ok (← IO.getStderr)
  | some path =>
    try
      return .ok (IO.FS.Stream.ofHandle (← IO.FS.Handle.mk path .append))
    catch _ => return .error (logFileError path)

def currentTime : IO UInt64 := do
  let now ← Std.Time.Timestamp.now
  return UInt64.ofNat now.toMillisecondsSinceUnixEpoch.val.toNat

def printError (message : String) : IO Unit := do
  (← IO.getStderr).putStrLn ("Error: " ++ message)

def performTask (options : Options) (task : Task) : IO UInt32 := do
  let environment ← readEnvironment
  match ← openLog options.logFile with
  | .error message =>
    printError message
    return 1
  | .ok logStream =>
    let wanted := environment LogFilter.variableName
    let filter := LogFilter.resolve wanted options.quiet options.verbose
    let config ← options.config.mapM readFile?
    let r := report { environment, config, time := ← currentTime } task
    for entry in r.log.filter filter.allows do
      logStream.putStrLn ("[" ++ entry.level.label ++ "] " ++ entry.text)
    logStream.flush
    let stdout ← IO.getStdout
    stdout.putStr r.output
    stdout.flush
    if let some message := r.failure then printError message
    return r.exitCode.toUInt32

end SimControl.CommandLine

open SimControl.CommandLine

def main (args : List String) : IO UInt32 := do
  match Invocation.ofArguments? args with
  | none =>
    (← IO.getStderr).putStrLn
      "usage: simpilot [OPTIONS] <parse|commands|suggest|tools|schema|run> [ARGUMENTS]"
    return usageExitCode.toUInt32
  | some .version =>
    (← IO.getStdout).putStrLn ("simpilot " ++ SimControl.CommandLine.version)
    return 0
  | some (.task options task) => performTask options task
