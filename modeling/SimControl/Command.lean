import SimControl.CommandKind
import SimControl.Result

/-!
# Commands

A command is a leaf, which becomes one call of a device, or is put together from others: a
sequence, or a choice between branches. A leaf may bring hooks of its own: a check before
it is carried out, other parameters to carry it out with, and a result to report if it fails.
-/

namespace SimControl

/-! ## Context -/

/-- What hooks and conditions can see. -/
structure Context where
  sessionId : Option String := none
  /-- The results of the commands of sequences, by their identifiers. -/
  results : Dictionary CommandResult := .empty
  vars : Params := .empty

namespace Context

def result? (c : Context) (id : String) : Option CommandResult :=
  c.results.get? id

/-- Whether the command with this identifier has run and succeeded. -/
def succeeded (c : Context) (id : String) : Bool :=
  (c.result? id).any (·.success)

def record (c : Context) (id : String) (result : CommandResult) : Context :=
  { c with results := c.results.insert id result }

def withVars (c : Context) (vars : Params) : Context :=
  { c with vars := c.vars.insertAll vars.entries }

end Context

/-! ## Errors -/

/-- Why a leaf failed. -/
inductive CommandError where
  | validationFailed
  | timeout (limitMs : Nat)
  | unsupported (kind : CommandKind)
  | invalidParameter (name : String) (reason : String)
  | backend (message : String)
  deriving DecidableEq, Repr

namespace CommandError

def message : CommandError → String
  | .validationFailed => "Validation failed"
  | .timeout limit => "Command timed out after " ++ String.ofList (Nat.toDigits 10 limit) ++ " ms"
  | .unsupported kind => "Unsupported command type: " ++ kind.label
  | .invalidParameter name reason => "Invalid parameter '" ++ name ++ "': " ++ reason
  | .backend message => message

def code : CommandError → String
  | .validationFailed => Code.validationFailed
  | .timeout _ => Code.timeout
  | .unsupported _ => Code.unsupportedCommand
  | .invalidParameter _ _ => Code.invalidParameter
  | .backend _ => Code.backendFailure

def toResult (e : CommandError) : CommandResult :=
  .failure e.code e.message

end CommandError

/-! ## Commands -/

structure Leaf where
  id : String
  kind : CommandKind
  params : Params
  description : Option String := none
  /-- The bound on this command, if it is not the default one. -/
  timeoutMs : Option UInt64 := none
  /-- The further attempts at this command, if they are not the default ones. -/
  retries : Option UInt32 := none
  validate : Option (Params → Context → Bool) := none
  transform : Option (Params → Context → Params) := none
  onError : Option (CommandError → Context → CommandResult) := none

namespace Leaf

/-- Whether the check of a leaf lets it through. -/
def isValid (leaf : Leaf) (context : Context) : Bool :=
  match leaf.validate with
  | some validate => validate leaf.params context
  | none => true

/-- The parameters that a leaf is carried out with. -/
def effectiveParams (leaf : Leaf) (context : Context) : Params :=
  match leaf.transform with
  | some transform => transform leaf.params context
  | none => leaf.params

/-- The result that is reported when a leaf fails. -/
def failureResult (leaf : Leaf) (context : Context) (error : CommandError) : CommandResult :=
  match leaf.onError with
  | some handle => handle error context
  | none => error.toResult

end Leaf

inductive Command where
  | leaf (leaf : Leaf)
  /-- Commands one after the other, all of them or up to the first that fails. -/
  | sequence (id : String) (description : Option String) (stopOnError : Bool)
      (children : List Command)
  /-- One of two branches, the second of which may be missing. -/
  | conditional (id : String) (description : Option String) (condition : Context → Bool)
      (ifTrue : Command) (ifFalse : Option Command)

namespace Command

def id : Command → String
  | .leaf l => l.id
  | .sequence id _ _ _ => id
  | .conditional id _ _ _ _ => id

def description : Command → Option String
  | .leaf l => l.description
  | .sequence _ description _ _ => description
  | .conditional _ description _ _ _ => description

/-- The identifier of the `n`-th command that is built, if it is not given another. -/
def generatedId (n : Nat) : String :=
  "auto-" ++ String.ofList (Nat.toDigits 10 n)

end Command

end SimControl
