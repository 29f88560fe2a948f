import SimControl.Registry.Basic
import SimControl.Runner.Attempts
import SimControl.Settings.Basic

/-!
# Running commands

A runner carries out commands on a backend. Running never fails: whatever goes wrong in a leaf
becomes its result. Sequences record the results of their children in the context, under the
children's identifiers; nothing else changes the context.
-/

namespace SimControl

structure Runner (σ : Type) where
  backend : Backend σ
  registry : Registry
  settings : Settings := {}

namespace Runner

/-! ## Leaves -/

/-- The session of the parameters, else that of the context, else the default one, else the
empty one. Of the first two an empty one does not count. -/
def sessionFor (r : Runner σ) (params : Params) (context : Context) : String :=
  let given := ((params.get? "sessionId").bind Json.string?).filter (· ≠ "")
  let current := context.sessionId.filter (· ≠ "")
  ((given.or current).or r.settings.defaultSessionId).getD ""

/-- The bound on a leaf that begins now. -/
def boundFor (r : Runner σ) (leaf : Leaf) (w : World σ) : TimeBound :=
  ⟨w.now, (leaf.timeoutMs.or r.settings.defaultTimeoutMs).map UInt64.toNat⟩

def retriesFor (r : Runner σ) (leaf : Leaf) : Nat :=
  (leaf.retries.getD r.settings.defaultRetries).toNat

/-- Carries out a leaf. Its arguments are read before the backend is called. -/
def carryOut (r : Runner σ) (leaf : Leaf) (context : Context) (w : World σ) :
    Except CommandError Json × World σ :=
  if leaf.isValid context then
    let params := leaf.effectiveParams context
    match Operation.ofParams leaf.kind params with
    | .error e => (.error (.invalidParameter e.name e.fault.message), w)
    | .ok operation =>
      attempts r.backend leaf.kind ⟨operation, r.sessionFor params context⟩
        r.settings.retryDelayMs.toNat (r.boundFor leaf w) (r.retriesFor leaf) w
  else (.error .validationFailed, w)

def runLeaf (r : Runner σ) (leaf : Leaf) (context : Context) (w : World σ) :
    CommandResult × World σ :=
  match r.carryOut leaf context w with
  | (.ok data, w) => (.ok data, w)
  | (.error e, w) => (leaf.failureResult context e, w)

/-! ## Trees -/

mutual

/-- Runs a command; also the context and the world after it. -/
def run (r : Runner σ) : Command → Context → World σ → CommandResult × Context × World σ
  | .leaf leaf, context, w =>
    let (result, w) := r.runLeaf leaf context w
    (result, context, w)
  | .sequence _ _ stopOnError children, context, w =>
    r.runAll stopOnError children .noop context w
  | .conditional _ _ condition ifTrue ifFalse, context, w =>
    if condition context then r.run ifTrue context w else r.runBranch ifFalse context w

/-- Runs the children of a sequence, of which the last result so far is given. -/
def runAll (r : Runner σ) (stopOnError : Bool) :
    List Command → CommandResult → Context → World σ → CommandResult × Context × World σ
  | [], last, context, w => (last, context, w)
  | child :: rest, _, context, w =>
    let (result, context, w) := r.run child context w
    let context := context.record child.id result
    if stopOnError && !result.success then (result, context, w)
    else r.runAll stopOnError rest result context w

/-- Runs a branch; a missing one is a success without data. -/
def runBranch (r : Runner σ) :
    Option Command → Context → World σ → CommandResult × Context × World σ
  | none, context, w => (.noop, context, w)
  | some branch, context, w => r.run branch context w

end

/-! ## Instructions -/

/-- The leaf that a text stands for. -/
def commandForInstruction (r : Runner σ) (text : String) : Except RegistryError Leaf := do
  let recognition ← r.registry.resolve text
  return { id := recognition.kind.label, kind := recognition.kind, params := recognition.params,
           description := some (Text.trimmed text) }

def runInstruction (r : Runner σ) (text : String) (context : Context) (w : World σ) :
    Except RegistryError CommandResult × World σ :=
  match r.commandForInstruction text with
  | .error e => (.error e, w)
  | .ok leaf =>
    let (result, _, w) := r.run (.leaf leaf) context w
    (.ok result, w)

end Runner

end SimControl
