import SimControl.Command
import SimControl.Device.Backend
import SimControl.Device.Request

/-!
# Attempts

A call is tried until it is carried out, fails for good or has used up its retries. A transient
failure is the only one that is tried again, after a pause. A bound holds for everything together:
what happens at its last instant still counts, and whatever would come later is cut off.
-/

namespace SimControl

/-- The state of a backend, the time in milliseconds and the calls so far, oldest first. -/
structure World (σ : Type) where
  device : σ
  now : Nat
  calls : List Call

/-- A bound on what begins at `start`; without a limit it is never exceeded. -/
structure TimeBound where
  start : Nat
  limitMs : Option Nat

/-- The limit, if it has been exceeded at a time. -/
def TimeBound.exceeded? (b : TimeBound) (time : Nat) : Option Nat :=
  b.limitMs.filter fun limit => b.start + limit < time

/-- The world when a limit ends, with the backend left in some state. -/
def World.cutOff (w : World σ) (b : TimeBound) (limit : Nat) (device : σ) : World σ :=
  { w with device, now := b.start + limit }

/-- What is said of a backend that broke down. -/
def CommandError.crash (kind : CommandKind) (lastWords : Option String) : CommandError :=
  .backend ("backend panicked during " ++ kind.label ++ ": " ++ lastWords.getD "unknown panic")

def CommandError.ofBackend (kind : CommandKind) : BackendError → CommandError
  | .unsupported => .unsupported kind
  | .invalidParameter name reason => .invalidParameter name reason
  | .transient message => .backend message
  | .operation message => .backend message

/-- Tries a call, with `retries` further attempts after transient failures. -/
def attempts (backend : Backend σ) (kind : CommandKind) (call : Call) (pauseMs : Nat)
    (bound : TimeBound) (retries : Nat) (w : World σ) : Except CommandError Json × World σ :=
  let attempt := backend call w.device
  let called : World σ := { w with calls := w.calls ++ [call] }
  let time := w.now + attempt.durationMs
  match bound.exceeded? time with
  | some limit => (.error (.timeout limit), called.cutOff bound limit attempt.abandoned)
  | none =>
    let after : World σ := { called with device := attempt.finished, now := time }
    match attempt.ending, retries with
    | .replied reply, _ => (.ok (call.answer reply), after)
    | .crashed lastWords, _ => (.error (.crash kind lastWords), after)
    | .failed (.transient _), retries + 1 =>
      match bound.exceeded? (time + pauseMs) with
      | some limit => (.error (.timeout limit), after.cutOff bound limit after.device)
      | none =>
        attempts backend kind call pauseMs bound retries { after with now := time + pauseMs }
    | .failed error, _ => (.error (.ofBackend kind error), after)
termination_by structural retries

end SimControl
