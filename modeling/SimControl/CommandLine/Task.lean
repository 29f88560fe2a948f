import SimControl.CommandLine.Switch
import SimControl.Text.Numeral

/-!
# What a command line asks for

A command line names a task, with switches of its own. A few switches belong to all tasks and may
stand before or behind the name of the task; the ones behind it win.
-/

namespace SimControl.CommandLine

/-- How tools are printed. -/
inductive ToolForm where
  | schemas
  | inventory
  | instructions
  deriving DecidableEq, Repr

/-- What is to be run. -/
inductive Target where
  | instruction (text : String)
  | tool (tool : String) (params : String)
  deriving DecidableEq, Repr

structure RunRequest where
  target : Target
  session : Option String
  timeoutMs : Option UInt64
  retries : Option UInt32
  deriving DecidableEq, Repr

inductive Task where
  | parse (text : String)
  | commands
  | suggest (text : String)
  | tools (form : ToolForm)
  | schema
  | run (request : RunRequest)
  deriving DecidableEq, Repr

/-- The switches of all tasks. -/
structure Options where
  verbose : Bool
  quiet : Bool
  logFile : Option String
  config : Option String
  deriving DecidableEq, Repr

inductive Invocation where
  | version
  | task (options : Options) (task : Task)
  deriving DecidableEq, Repr

/-! ## Switches -/

def isPath (value : String) : Bool :=
  value != ""

/-- The retries that a numeral stands for, which is read with a sign. -/
def retries? (value : String) : Option UInt32 :=
  ((Text.signed64? value.toList).filter fun n => 0 ≤ n && n < 2 ^ 32).map fun n =>
    UInt32.ofNat n.toNat

def timeout? (value : String) : Option UInt64 :=
  Text.uint64? value.toList

def sharedSwitches : List Switch :=
  [⟨"verbose", some 'v', .flag⟩, ⟨"quiet", none, .flag⟩, ⟨"log-file", none, .option isPath⟩,
    ⟨"config", none, .option isPath⟩]

def versionSwitch : Switch :=
  ⟨"version", some 'V', .final⟩

def toolsSwitches : List Switch :=
  [⟨"inventory", none, .flag⟩, ⟨"instructions", none, .flag⟩]

def runSwitches : List Switch :=
  [⟨"tool", none, .option fun _ => true⟩, ⟨"params", none, .option fun _ => true⟩,
    ⟨"session", none, .option fun _ => true⟩,
    ⟨"timeout-ms", none, .option fun value => (timeout? value).isSome⟩,
    ⟨"retries", none, .option fun value => (retries? value).isSome⟩]

/-! ## Reading -/

def Reading.text (r : Reading) : String :=
  " ".intercalate r.words

def RunRequest.ofReading? (r : Reading) : Option RunRequest := do
  let target ←
    match r.value? "tool", r.value? "params" with
    | some tool, params =>
      if r.words.isEmpty then some (.tool tool (params.getD "\x7b\x7d")) else none
    | none, some _ => none
    | none, none => some (.instruction r.text)
  return { target
           session := r.value? "session"
           timeoutMs := (r.value? "timeout-ms").bind timeout?
           retries := (r.value? "retries").bind retries? }

/-- The switches of a task, and how it is read from its arguments. -/
def taskReader? : String → Option (List Switch × (Reading → Option Task))
  | "parse" => some ([], fun r => if r.words.isEmpty then none else some (.parse r.text))
  | "commands" => some ([], fun r => if r.words.isEmpty then some .commands else none)
  | "suggest" => some ([], fun r => some (.suggest r.text))
  | "tools" => some (toolsSwitches, fun r =>
    match r.words, r.has "inventory", r.has "instructions" with
    | [], false, false => some (.tools .schemas)
    | [], true, false => some (.tools .inventory)
    | [], false, true => some (.tools .instructions)
    | _, _, _ => none)
  | "schema" => some ([], fun r => if r.words.isEmpty then some .schema else none)
  | "run" => some (runSwitches, fun r => (RunRequest.ofReading? r).map .run)
  | _ => none

def Options.ofReadings (before behind : Reading) : Options where
  verbose := behind.has "verbose" || before.has "verbose"
  quiet := behind.has "quiet" || before.has "quiet"
  logFile := (behind.value? "log-file").or (before.value? "log-file")
  config := (behind.value? "config").or (before.value? "config")

/-- What a command line asks for, if it can be understood. -/
def Invocation.ofArguments? (args : List String) : Option Invocation :=
  match readArguments (versionSwitch :: sharedSwitches) true args {} with
  | none => none
  | some (.stopped _) => some .version
  | some (.read _ []) => none
  | some (.read before (name :: rest)) =>
    match taskReader? name with
    | none => none
    | some (switches, ofReading?) =>
      match readArguments (sharedSwitches ++ switches) false rest {} with
      | some (.read behind _) => (ofReading? behind).map (.task (.ofReadings before behind))
      | _ => none

end SimControl.CommandLine
