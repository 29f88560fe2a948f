import SimControl.Device.DryRun
import SimControl.Proofs.Registry.Case
import SimControl.Proofs.Registry.Invariant
import SimControl.Runner.ToolCall

/-!
# Instructions as tool calls

An instruction is looked up in the patterns, a tool in the indexes of the registry. Both ways end in a leaf,
and what a leaf does depends neither on its identifier nor on its description. So an instruction does what the
tool of its definition does with the parameters of the instruction: `callInstruction_eq_callTool`.
-/

namespace SimControl

variable {σ : Type}

namespace Runner

/-! ## Leaves -/

/-- Identifier and description of a leaf are for its reader only. -/
theorem runLeaf_relabel (r : Runner σ) (leaf : Leaf) (id : String) (description : Option String)
    (context : Context) (w : World σ) :
    r.runLeaf { leaf with id, description } context w = r.runLeaf leaf context w := rfl

/-- The leaf of a kind and its parameters, without limits and hooks of its own. -/
def bareLeaf (kind : CommandKind) (params : Params) : Leaf :=
  { id := kind.label, kind, params }

theorem runInstruction_of_resolve {r : Runner σ} {text : String} {recognition : Registry.Recognition}
    (h : r.registry.resolve text = .ok recognition) (context : Context) (w : World σ) :
    r.runInstruction text context w =
      (.ok (r.runLeaf (bareLeaf recognition.kind recognition.params) context w).1,
        (r.runLeaf (bareLeaf recognition.kind recognition.params) context w).2) := by
  rw [runInstruction, commandForInstruction, h,
    ← r.runLeaf_relabel (bareLeaf recognition.kind recognition.params) recognition.kind.label
      (some (Text.trimmed text))]
  rfl

theorem runInstruction_of_error {r : Runner σ} {text : String} {error : RegistryError}
    (h : r.registry.resolve text = .error error) (context : Context) (w : World σ) :
    r.runInstruction text context w = (.error error, w) := by
  rw [runInstruction, commandForInstruction, h]
  rfl

/-! ## Calls -/

theorem callInstruction_of_resolve {r : Runner σ} {text : String} {recognition : Registry.Recognition}
    (h : r.registry.resolve text = .ok recognition) (session : Option String) (w : World σ) :
    r.callInstruction session text w =
      (.ofResult (r.runLeaf (bareLeaf recognition.kind recognition.params) (callerContext session) w).1,
        (r.runLeaf (bareLeaf recognition.kind recognition.params) (callerContext session) w).2) := by
  rw [callInstruction, runInstruction_of_resolve h]

theorem callTool_of_definition {r : Runner σ} {tool : String} {d : Definition}
    (h : r.registry.toolDefinition? tool = some d) (session : Option String) (params : Params) (w : World σ) :
    r.callTool session tool params w =
      (.ofResult (r.runLeaf (bareLeaf d.kind params) (callerContext session) w).1,
        (r.runLeaf (bareLeaf d.kind params) (callerContext session) w).2) := by
  rw [callTool, commandForTool, h,
    ← r.runLeaf_relabel (bareLeaf d.kind params) d.kind.label
      (some ("tool call " ++ tool ++ " (" ++ d.name ++ ")"))]
  rfl

theorem callTool_of_unknown {r : Runner σ} {tool : String} (h : r.registry.toolDefinition? tool = none)
    (session : Option String) (params : Params) (w : World σ) :
    r.callTool session tool params w = (.error (RegistryError.unknownTool tool).message, w) := by
  rw [callTool, commandForTool, h]

/-- Over a registry that was built by registrations, an instruction does and answers what the tool of the
matching definition does and answers with the parameters of the instruction. What is no instruction or no tool
is answered by an error, and the backend does not learn of it. -/
theorem callInstruction_eq_callTool (r : Runner σ) (h : r.registry.Reachable) (session : Option String)
    (w : World σ) :
    (∀ text recognition, r.registry.resolve text = .ok recognition →
      ∃ d m, r.registry.firstMatch? (Text.trim text.toList) = some (d, m) ∧
        recognition = ⟨d.kind, d.name, d.extract m⟩ ∧
        r.callInstruction session text w = r.callTool session d.tool recognition.params w) ∧
    (∀ text error, r.registry.resolve text = .error error →
      r.callInstruction session text w =
        ({ text := "Error: " ++ ("Could not understand the instruction: " ++ text), isError := true }, w)) ∧
    ∀ tool params, (∀ d ∈ r.registry.definitions, d.tool ≠ tool) →
      r.callTool session tool params w =
        ({ text := "Error: " ++ ("Could not map tool \"" ++ tool ++ "\" to a command"), isError := true }, w) := by
  have hs := h.inStep
  refine ⟨fun text recognition hresolve => ?_, fun text error hresolve => ?_, fun tool params hne => ?_⟩
  · obtain ⟨d, m, hfirst, hd, rfl⟩ := Registry.firstMatch?_of_resolve hresolve
    refine ⟨d, m, hfirst, rfl, ?_⟩
    rw [callInstruction_of_resolve hresolve, callTool_of_definition (hs.toolDefinition?_eq_some hd)]
  · have herror : error = .unrecognizedInstruction text := by
      unfold Registry.resolve at hresolve
      split at hresolve
      · cases hresolve
      · exact (Except.error.inj hresolve).symm
    rw [callInstruction, runInstruction_of_error hresolve, herror]
    rfl
  · have hkind : r.registry.tools.get? tool = none := by
      have hunknown := hs.toolKind_eq_error hne
      unfold Registry.toolKind at hunknown
      split at hunknown
      · cases hunknown
      · assumption
    refine callTool_of_unknown ?_ session params w
    rw [Registry.toolDefinition?, hkind, Option.bind_none]

/-- A dry run over a registry whose only command boots a simulator by its name and its identifier. -/
def bootRunner : Runner DryRun.Journal where
  backend := DryRun.backend
  registry :=
    match Group.ofEntries "simulators" [Registry.bootNamed] with
    | .ok group => Registry.empty.afterRegister group
    | .error _ => .empty

theorem callInstruction_eq_callTool_boot :
    bootRunner.registry.Reachable ∧
    (∃ recognition, bootRunner.registry.resolve "boot Pad a1" = .ok recognition ∧
      bootRunner.callInstruction (some "host") "boot Pad a1" ⟨[], 0, []⟩ =
        bootRunner.callTool (some "host") "boot-named" recognition.params ⟨[], 0, []⟩) ∧
    (bootRunner.callInstruction (some "host") "boot Pad a1" ⟨[], 0, []⟩).2.calls = [⟨.boot "A1", "host"⟩] ∧
    (bootRunner.callInstruction (some "host") "boot Pad a1" ⟨[], 0, []⟩).1.isError = false ∧
    bootRunner.callTool (some "host") "boot named" .empty ⟨[], 0, []⟩ =
      (⟨"Error: Could not map tool \"boot named\" to a command", true⟩, ⟨[], 0, []⟩) := by
  have h : bootRunner.registry.Reachable := by
    unfold bootRunner
    simp only []
    split
    · exact .register _ .empty
    · exact .empty
  obtain ⟨hsame, -, hunknown⟩ := callInstruction_eq_callTool bootRunner h (some "host") ⟨[], 0, []⟩
  have hname : (bootRunner.registry.recognize? "boot Pad a1").map (·.name) = some "boot named" := by
    decide
  obtain ⟨recognition, hrecognition, hnamed⟩ := Option.map_eq_some_iff.1 hname
  have hresolve : bootRunner.registry.resolve "boot Pad a1" = .ok recognition := by
    rw [Registry.resolve, hrecognition]
  obtain ⟨d, m, -, rfl, hcall⟩ := hsame _ _ hresolve
  have htool : d.tool = "boot-named" := by
    rw [Definition.tool, show d.entry.name = "boot named" from hnamed]
    decide
  exact ⟨h, ⟨_, hresolve, htool ▸ hcall⟩, by decide +kernel, by decide +kernel, hunknown _ _ (by decide)⟩

end Runner

end SimControl
