import SimControl.Envelope

/-!
# Results

What comes of a command: success with data, or failure with a text and a machine code. A result
is built without a time; who reports it stamps it.
-/

namespace SimControl

structure CommandResult where
  success : Bool
  data : Option Json
  error : Option String
  code : Option String
  /-- The time of completion, in milliseconds since the Unix epoch. -/
  timestamp : UInt64

namespace CommandResult

/-! ## Building -/

def ok (data : Json) : CommandResult :=
  ⟨true, some data, none, none, 0⟩

/-- A success without data to speak of. -/
def noop : CommandResult :=
  ok .null

def failure (code message : String) : CommandResult :=
  ⟨false, none, some message, some code, 0⟩

def stamped (r : CommandResult) (timestamp : UInt64) : CommandResult :=
  { r with timestamp }

instance : Inhabited CommandResult := ⟨noop⟩

/-- What a failed result says to a caller. -/
def envelope? (r : CommandResult) : Option ErrorEnvelope :=
  if r.success then none
  else some (.of (r.code.getD Code.backendFailure) (r.error.getD ""))

/-! ## Data form -/

/-- All but the time; what a result does not have is left out. -/
def outcomeFields (r : CommandResult) : List (String × Json) :=
  let optional (name : String) (j : Option Json) : List (String × Json) :=
    (j.map fun j => (name, j)).toList
  ("success", .bool r.success) :: (optional "data" r.data ++
    optional "error" (r.error.map .string) ++ optional "code" (r.code.map .string))

def toJson (r : CommandResult) : Json :=
  .object (r.outcomeFields ++ [("timestamp", .ofUInt64 r.timestamp)])

/-- The result without its time. -/
def outcome (r : CommandResult) : Json :=
  .object r.outcomeFields

def ofFields? (fields : List (String × Json)) : Option CommandResult := do
  let .bool success ← fields.lookup "success" | none
  let .number (.natural timestamp) ← fields.lookup "timestamp" | none
  let error ← Json.optionalString? (fields.lookup "error")
  let code ← Json.optionalString? (fields.lookup "code")
  return { success, data := Json.optional (fields.lookup "data"), error, code, timestamp }

/-- The result that a text holds. -/
def parse? (text : String) : Option CommandResult :=
  let reader (count : Nat) : Json.Reader (List (String × Json)) :=
    Json.Reader.record (["success", "data", "error", "code", "timestamp"].map fun name =>
      (name, Json.Reader.valueInside 1 count)) count
  (Json.Reader.readAll reader text.toList).bind ofFields?

end CommandResult

end SimControl
