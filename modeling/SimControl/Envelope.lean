import SimControl.Json.Record

/-!
# Error envelopes

What a caller is told of a failure: its code and message, perhaps a hint, and calls that may help
next. The code stays the same while the message may change.
-/

namespace SimControl

namespace Code

def validationFailed : String := "validation_failed"

def timeout : String := "timeout"

def unsupportedCommand : String := "unsupported_command"

def backendFailure : String := "backend_failure"

def invalidParameter : String := "invalid_parameter"

def unknownTool : String := "unknown_tool"

def unrecognizedInstruction : String := "unrecognized_instruction"

def invalidCatalog : String := "invalid_catalog"

end Code

/-- A call that may help after a failure. -/
structure NextAction where
  tool : String
  args : Json
  reason : String

structure ErrorEnvelope where
  code : String
  message : String
  details : Option Json
  hint : Option String
  nextActions : List NextAction

namespace Json

/-- A field that may be missing or null. -/
def optional : Option Json → Option Json
  | some .null => none
  | j => j

/-- A text that may be missing or null; any other data is refused. -/
def optionalString? (j : Option Json) : Option (Option String) :=
  match optional j with
  | none => some none
  | some (.string s) => some (some s)
  | some _ => none

end Json

namespace NextAction

def toJson (a : NextAction) : Json :=
  .object [("tool", .string a.tool), ("args", a.args), ("reason", .string a.reason)]

def ofFields? (fields : List (String × Json)) : Option NextAction := do
  let .string tool ← fields.lookup "tool" | none
  let args ← fields.lookup "args"
  let .string reason ← fields.lookup "reason" | none
  return { tool, args, reason }

def reader (count : Nat) : Json.Reader NextAction := fun cs => do
  let (fields, rest) ← Json.Reader.record (["tool", "args", "reason"].map fun name =>
    (name, Json.Reader.valueInside 3 count)) count cs
  return (← ofFields? fields, rest)

end NextAction

namespace ErrorEnvelope

def of (code message : String) : ErrorEnvelope :=
  ⟨code, message, none, none, []⟩

def withHint (e : ErrorEnvelope) (hint : String) : ErrorEnvelope :=
  { e with hint := some hint }

def withNextAction (e : ErrorEnvelope) (action : NextAction) : ErrorEnvelope :=
  { e with nextActions := e.nextActions ++ [action] }

/-! ## Data form -/

def toJson (e : ErrorEnvelope) : Json :=
  .object [("code", .string e.code), ("message", .string e.message),
    ("details", .ofOption id e.details), ("hint", .ofOption .string e.hint),
    ("next_actions", .array (e.nextActions.map NextAction.toJson))]

/-- A field of an envelope as it is read. -/
inductive Field where
  | data (j : Json)
  | actions (as : List NextAction)

def Field.data? : Field → Option Json
  | .data j => some j
  | .actions _ => none

def Field.actions? : Field → Option (List NextAction)
  | .data _ => none
  | .actions as => some as

def ofFields? (fields : List (String × Field)) : Option ErrorEnvelope := do
  let data (name : String) : Option Json := (fields.lookup name).bind Field.data?
  let .string code ← data "code" | none
  let .string message ← data "message" | none
  let hint ← Json.optionalString? (data "hint")
  return { code, message, details := Json.optional (data "details"), hint,
           nextActions := ((fields.lookup "next_actions").bind Field.actions?).getD [] }

def actionsReader (count : Nat) : Json.Reader Field
  | '[' :: rest =>
    (Json.Reader.arrayBody (NextAction.reader count) count rest).map fun (actions, rest) =>
      (.actions actions, rest)
  | _ => none

/-- The envelope that a text holds. Written as an array, it has to have its first four fields. -/
def parse? (text : String) : Option ErrorEnvelope :=
  let reader (count : Nat) : Json.Reader (List (String × Field)) := fun cs => do
    let (fields, rest) ← Json.Reader.record
      ((["code", "message", "details", "hint"].map fun name =>
        (name, fun cs => (Json.Reader.valueInside 1 count cs).map fun (j, rest) =>
          (Field.data j, rest))) ++ [("next_actions", actionsReader count)]) count cs
    if cs.head? = some '[' ∧ fields.length < 4 then none else some (fields, rest)
  (Json.Reader.readAll reader text.toList).bind ofFields?

end ErrorEnvelope

end SimControl
