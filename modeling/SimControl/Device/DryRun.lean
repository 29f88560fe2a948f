import SimControl.Device.Backend

/-!
# Dry runs

A backend that does nothing and keeps a journal of what it would have done.
-/

namespace SimControl

namespace DryRun

/-- The calls so far, oldest first. -/
abbrev Journal := List Call

/-- The session that is said to have been created. -/
def createdSession : String :=
  "dry-run-session"

/-- A planned operation is answered with its record, a question with yes. -/
def reply (c : Call) : Json :=
  let mark : String × Json := ("dryRun", .bool true)
  match c.operation with
  | .listAvailable => c.toJson
  | .listBooted => c.toJson
  | .createSession _ _ _ => .record (("sessionId", .string createdSession) :: mark :: c.fields)
  | operation => if operation.isQuestion then .bool true else .record (mark :: c.fields)

def backend : Backend Journal := fun c journal =>
  { durationMs := 0, ending := .replied (reply c), finished := journal ++ [c],
    abandoned := journal }

end DryRun

end SimControl
