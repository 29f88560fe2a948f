import SimControl.Runner.Basic

/-!
# Tool calls

How an agent runs commands: it names a tool and gives parameters, or writes an instruction, and is
handed a text.
-/

namespace SimControl

structure ToolResponse where
  text : String
  isError : Bool
  deriving DecidableEq, Repr

namespace ToolResponse

def error (message : String) : ToolResponse :=
  ⟨"Error: " ++ message, true⟩

/-- A success is its data form, a failure what went wrong. -/
def ofResult (result : CommandResult) : ToolResponse :=
  if result.success then ⟨result.toJson.compact, false⟩
  else error (result.error.getD "command failed")

end ToolResponse

namespace Runner

/-- The leaf that a tool call stands for. -/
def commandForTool (r : Runner σ) (tool : String) (params : Params) : Except RegistryError Leaf :=
  match r.registry.toolDefinition? tool with
  | none => .error (.unknownTool tool)
  | some d =>
    .ok { id := d.kind.label, kind := d.kind, params,
          description := some ("tool call " ++ tool ++ " (" ++ d.name ++ ")") }

/-- The context of a caller with a session of its own. -/
def callerContext (session : Option String) : Context :=
  { sessionId := session }

def callTool (r : Runner σ) (session : Option String) (tool : String) (params : Params)
    (w : World σ) : ToolResponse × World σ :=
  match r.commandForTool tool params with
  | .error e => (.error e.message, w)
  | .ok leaf =>
    let (result, _, w) := r.run (.leaf leaf) (callerContext session) w
    (.ofResult result, w)

def callInstruction (r : Runner σ) (session : Option String) (text : String) (w : World σ) :
    ToolResponse × World σ :=
  match r.runInstruction text (callerContext session) w with
  | (.error e, w) => (.error e.message, w)
  | (.ok result, w) => (.ofResult result, w)

end Runner

end SimControl
