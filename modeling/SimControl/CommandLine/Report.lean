import SimControl.CommandLine.Log
import SimControl.CommandLine.Task
import SimControl.Device.DryRun
import SimControl.Registry.Discovery
import SimControl.Registry.Ranking
import SimControl.Registry.ToolSchema
import SimControl.Runner.ToolCall
import SimControl.Settings.File

/-!
# Carrying out tasks

What each task prints, how it fails and what it logs. Commands are run dry: what is printed is
their result and the operations that a device would have been asked for.
-/

namespace SimControl.CommandLine

def version : String :=
  "0.1.0"

/-- What a task leaves behind. -/
structure Report where
  output : String
  failure : Option String := none
  log : List LogEntry := []

namespace Report

/-- Success is zero. -/
def exitCode (r : Report) : Nat :=
  if r.failure.isSome then 1 else 0

def ofJson (j : Json) : Report :=
  { output := j.pretty ++ "\n" }

def ofLines (lines : List String) : Report :=
  { output := String.join (lines.map (· ++ "\n")) }

def ofFailure (message : String) : Report :=
  { output := "", failure := some message }

end Report

/-- The exit code of a command line that is not understood. -/
def usageExitCode : Nat :=
  2

/-- What a task can see of its surroundings. -/
structure Surroundings where
  environment : Settings.Environment
  /-- The content of the settings file, if one is named and if it could be read. -/
  config : Option (Option String)
  /-- The time, in milliseconds since the Unix epoch. -/
  time : UInt64

def logFileError (path : String) : String :=
  "Failed to open log file " ++ path

/-! ## Parsing -/

/-- The number of commands that are offered in place of an unknown one. -/
def maxCandidates : Nat :=
  3

/-- A command that may have been meant by a text. -/
def nextAction (text : String) (c : RankedCommand) : NextAction where
  tool := c.tool
  args := .object []
  reason := "closest match to \"" ++ Text.trimmed text ++ "\" (" ++
    String.ofList (Decimal.twoPlaces c.score) ++ ")"

def unrecognized (registry : Registry) (text : String) (error : RegistryError) : Report :=
  let ranked := registry.rank text maxCandidates
  let envelope := ErrorEnvelope.of error.code error.message
  let envelope :=
    match ranked.head? with
    | some best => envelope.withHint ("Did you mean \"" ++ best.name ++ "\"?")
    | none => envelope
  let envelope := (ranked.map (nextAction text)).foldl ErrorEnvelope.withNextAction envelope
  { Report.ofJson (Json.object [("candidates", .array (ranked.map RankedCommand.toJson)),
      ("error", envelope.toJson)]).canonical with failure := some error.message }

def parse (registry : Registry) (text : String) : Report :=
  match registry.resolve text with
  | .ok recognition => .ofJson recognition.toJson
  | .error error => unrecognized registry text error

/-! ## Schema of results -/

def optionalTextSchema : Json :=
  .object [("type", .array [.string "string", .string "null"])]

/-- The schema of the data form of results. -/
def resultSchema : Json :=
  .object [("$schema", .string "https://json-schema.org/draft/2020-12/schema"),
    ("title", .string "CommandResult"),
    ("description", .string ("Outcome of executing a command.\n\n" ++
      "Either a success carrying `data` or a failure carrying `error`; never both.")),
    ("type", .string "object"),
    ("properties", .object [("code", optionalTextSchema), ("data", .bool true),
      ("error", optionalTextSchema), ("success", .object [("type", .string "boolean")]),
      ("timestamp", .object [
        ("description", .string "Completion time in milliseconds since the Unix epoch."),
        ("type", .string "integer"), ("format", .string "uint64"),
        ("minimum", .number (.natural 0))])]),
    ("required", .array [.string "success", .string "timestamp"])]

/-! ## Running -/

/-- The parameters that a text holds, or what is wrong with it. -/
def paramsOf (text : String) : Except String Params :=
  match Json.parse? text with
  | none => .error "--params must be valid JSON"
  | some j =>
    match j.params? with
    | some params => .ok params
    | none => .error ("--params must be a JSON object, got " ++ j.compact)

/-- The leaf that a target stands for, or why there is none. -/
def leafFor (runner : Runner σ) : Target → Except String Leaf
  | .tool tool params => do
    (runner.commandForTool tool (← paramsOf params)).mapError RegistryError.message
  | .instruction text =>
    if (Text.trim text.toList).isEmpty then .error "Provide an instruction or --tool"
    else (runner.commandForInstruction text).mapError RegistryError.message

/-- What a request comes to. -/
structure RunOutcome where
  leaf : Leaf
  result : CommandResult
  /-- What a device would have been asked for. -/
  journal : DryRun.Journal

/-- Runs a request dry, or says why there is nothing to run. -/
def runDry (registry : Registry) (settings : Settings) (request : RunRequest) :
    Except String RunOutcome := do
  let runner : Runner DryRun.Journal := { backend := DryRun.backend, registry, settings }
  let leaf ← leafFor runner request.target
  let leaf := { leaf with timeoutMs := request.timeoutMs, retries := request.retries }
  let (result, _, world) := runner.run (.leaf leaf) { sessionId := request.session } ⟨[], 0, []⟩
  return { leaf, result, journal := world.device }

namespace RunOutcome

def toJson (o : RunOutcome) : Json :=
  (Json.object [("operations", .array (o.journal.map Call.toJson)),
    ("result", o.result.toJson)]).canonical

/-- What is said of a failed result. -/
def failure? (o : RunOutcome) : Option String :=
  o.result.envelope?.map fun e => e.message ++ " (" ++ e.code ++ ")"

def log (o : RunOutcome) : List LogEntry :=
  let subject := o.leaf.id ++ " (" ++ o.leaf.kind.label ++ ")"
  (o.journal.map fun c => ⟨.info, "dry run: " ++ c.toJson.compact⟩) ++
    [if o.result.success then ⟨.debug, "Command " ++ subject ++ " succeeded"⟩
    else ⟨.error, "Error executing command " ++ subject ++ ": " ++ o.result.error.getD ""⟩]

/-- The outcome, whose result is completed at that time. -/
def report (o : RunOutcome) (time : UInt64) : Report :=
  let o := { o with result := o.result.stamped time }
  { Report.ofJson o.toJson with failure := o.failure?, log := o.log }

end RunOutcome

def run (registry : Registry) (surroundings : Surroundings) (request : RunRequest) : Report :=
  match Settings.resolve surroundings.config surroundings.environment with
  | .error _ => .ofFailure "Failed to load orchestrator config"
  | .ok settings =>
    match runDry registry settings request with
    | .error message => .ofFailure message
    | .ok outcome => outcome.report surroundings.time

/-! ## Tasks -/

def perform (registry : Registry) (surroundings : Surroundings) : Task → Report
  | .parse text => parse registry text
  | .commands => .ofJson (.array (registry.summaries.map CommandSummary.toJson))
  | .suggest text => .ofLines (registry.suggest text)
  | .tools .schemas => .ofJson (.array (registry.toolSchemas.map ToolSchema.toJson))
  | .tools .inventory => .ofJson (registry.toolInventory version)
  | .tools .instructions => .ofLines [registry.toolInstructions]
  | .schema => .ofJson resultSchema
  | .run request => run registry surroundings request

/-- The entry that every task begins its log with. -/
def loadedEntry (registry : Registry) : LogEntry :=
  let number (n : Nat) : String := String.ofList (Nat.toDigits 10 n)
  ⟨.info, "Loaded " ++ number registry.definitions.length ++ " command definitions in " ++
    number registry.groups.length ++ " groups"⟩

/-- The report of a task over the built-in registry. -/
def report (surroundings : Surroundings) (task : Task) : Report :=
  let registry := Registry.builtin
  let r := perform registry surroundings task
  { r with log := loadedEntry registry :: r.log }

end SimControl.CommandLine
