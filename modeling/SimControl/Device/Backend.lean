import SimControl.Device.Operation

/-!
# Devices

A backend carries out calls. It has a state, takes time, and may fail or break down; nothing else
is known of it. A caller may give up on an attempt before it is over.
-/

namespace SimControl

/-- Why a backend did not carry out a call. -/
inductive BackendError where
  | unsupported
  | invalidParameter (name : String) (reason : String)
  /-- A failure that may pass, such as a busy device. -/
  | transient (message : String)
  | operation (message : String)
  deriving DecidableEq, Repr

/-- How an attempt ends. -/
inductive AttemptEnd where
  | replied (reply : Json)
  | failed (error : BackendError)
  /-- The backend broke down, perhaps with some last words. -/
  | crashed (message : Option String)

/-- One attempt at a call, by a backend with states `σ`. -/
structure Attempt (σ : Type) where
  durationMs : Nat
  ending : AttemptEnd
  /-- The state of the backend when the attempt is over. -/
  finished : σ
  /-- Its state if the caller gives up before. -/
  abandoned : σ

abbrev Backend (σ : Type) := Call → σ → Attempt σ

end SimControl
