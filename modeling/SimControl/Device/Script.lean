import SimControl.Device.DryRun

/-!
# Scripted devices

A backend that follows a script: each operation has a list of steps, and each call of it takes the
next one. A step takes some time and then has an effect. Calls without a step, and those that are
let through, go to a dry run.
-/

namespace SimControl

namespace Script

inductive Effect where
  | fail (error : BackendError)
  | crash (message : Option String)
  | reply (data : Json)
  | letThrough

/-- A step that is played `times` times. -/
structure Step where
  times : Nat
  delayMs : Nat
  effect : Effect

/-- The steps left for each operation, by name, and the journal of the dry run. -/
structure State where
  steps : Dictionary (List Step)
  journal : DryRun.Journal

/-- The next step of a list, and the list after it. -/
def next? : List Step → Option (Step × List Step)
  | [] => none
  | step :: rest =>
    match step.times with
    | 0 => next? rest
    | times + 1 => some (step, { step with times } :: rest)

/-- The backend that plays a script; `otherwise` is the effect of a call without a step. -/
def backend (otherwise : Effect) : Backend State := fun c s =>
  let (step, s) :=
    match next? ((s.steps.get? c.operation.name).getD []) with
    | some (step, rest) => (step, { s with steps := s.steps.insert c.operation.name rest })
    | none => (⟨1, 0, otherwise⟩, s)
  let attempt (ending : AttemptEnd) (journal : DryRun.Journal) : Attempt State :=
    { durationMs := step.delayMs, ending, finished := { s with journal }, abandoned := s }
  match step.effect with
  | .fail error => attempt (.failed error) s.journal
  | .crash message => attempt (.crashed message) s.journal
  | .reply data => attempt (.replied data) s.journal
  | .letThrough =>
    let passed := DryRun.backend c s.journal
    attempt passed.ending passed.finished

end Script

end SimControl
