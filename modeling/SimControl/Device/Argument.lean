import SimControl.Decimal.Numeral
import SimControl.Device.Button
import SimControl.Json.Writer

/-!
# Arguments from parameters

Parameters are loosely typed: a number may be data or a numeral, a list an array or a text with
separators. The readers here turn a named parameter into the typed argument of an operation, or
say what is wrong with it. A null counts as absent.
-/

namespace SimControl

/-- What is wrong with a parameter. -/
inductive ParameterFault where
  | missing
  | notText
  | notNumber (given : Json)
  | notNatural (given : Binary64)
  | tooLarge (given : UInt64)
  | notList (given : Json)
  | notKeyCode (given : Json)
  | noKeyCodes
  | notString (given : Json)
  | noEntries
  | notFlag (given : Json)
  | notButton (given : String)

def ParameterFault.message : ParameterFault → String
  | .missing => "missing"
  | .notText => "expected a non-empty string"
  | .notNumber j => "expected a number, got " ++ j.compact
  | .notNatural x =>
    "expected a non-negative integer, got " ++ String.ofList (Decimal.messageText x)
  | .tooLarge n => String.ofList (Nat.toDigits 10 n.toNat) ++ " is out of range"
  | .notList j => "expected a list, got " ++ j.compact
  | .notKeyCode j => "invalid key code " ++ j.compact
  | .noKeyCodes => "expected at least one key code"
  | .notString j => "expected strings, got " ++ j.compact
  | .noEntries => "expected at least one entry"
  | .notFlag (.string s) => "expected a boolean, got '" ++ s ++ "'"
  | .notFlag j => "expected a boolean, got " ++ j.compact
  | .notButton text => DeviceButton.unknownMessage text

/-- A parameter that cannot be used. -/
structure ParameterError where
  name : String
  fault : ParameterFault

/-- The reading of a parameter. -/
abbrev Argument (α : Type) := Except ParameterError α

namespace Params

/-- A parameter that is not null. -/
def present? (params : Params) (name : String) : Option Json :=
  (params.get? name).filter fun j => !j.isNull

/-- Refuses an absent parameter. -/
def require (name : String) (fault : ParameterFault) (a : Option α) : Argument α :=
  match a with
  | some a => .ok a
  | none => .error ⟨name, fault⟩

/-! ## Text -/

/-- The trimmed text of a parameter. Blank text and other data are as good as absent. -/
def optionalText (params : Params) (name : String) : Option String :=
  (((params.present? name).bind Json.string?).map Text.trimmed).filter (· ≠ "")

def text (params : Params) (name : String) : Argument String :=
  require name .notText (params.optionalText name)

def button (params : Params) (name : String) : Argument DeviceButton := do
  let given ← params.text name
  require name (.notButton given) (DeviceButton.ofText? given)

/-! ## Numbers -/

/-- The finite double that data stands for. -/
def double? : Json → Option Binary64
  | .number n => n.toDouble?
  | .string s => Decimal.localNumeral? (Text.trim s.toList)
  | _ => none

def optionalNumber (params : Params) (name : String) : Argument (Option Binary64) :=
  match params.present? name with
  | none => .ok none
  | some j => (require name (.notNumber j) (double? j)).map some

def number (params : Params) (name : String) : Argument Binary64 := do
  require name .missing (← params.optionalNumber name)

/-- The value of a whole number that is not negative, at most the largest 64-bit integer. -/
def natural? (x : Binary64) : Option UInt64 :=
  if (!x.negative || x.significand == 0) && x.isWhole then
    some (UInt64.ofNat (min x.wholePart (2 ^ 64 - 1)))
  else none

def optionalNatural (params : Params) (name : String) : Argument (Option UInt64) := do
  match ← params.optionalNumber name with
  | none => return none
  | some x => (require name (.notNatural x) (natural? x)).map some

/-- Key codes have 32 bits. -/
def narrow (name : String) (n : UInt64) : Argument UInt32 :=
  require name (.tooLarge n) (if n.toNat < 2 ^ 32 then some n.toUInt32 else none)

def keyCode (params : Params) (name : String) : Argument UInt32 := do
  narrow name (← require name .missing (← params.optionalNatural name))

/-! ## Lists -/

/-- The items of an array, or the parts of a text between commas and white space. -/
def list (params : Params) (name : String) : Argument (List Json) :=
  match params.present? name with
  | none => .error ⟨name, .missing⟩
  | some (.array items) => .ok items
  | some (.string s) =>
    .ok ((Text.pieces Text.isListSeparator s.toList).map fun piece => .string (String.ofList piece))
  | some j => .error ⟨name, .notList j⟩

/-- The 64-bit integer that data stands for. -/
def code? : Json → Option UInt64
  | .number n => n.toUInt64?
  | .string s => Text.uint64? s.toList
  | _ => none

def keyCodes (params : Params) (name : String) : Argument (List UInt32) := do
  let items ← params.list name
  if items.isEmpty then .error ⟨name, .noKeyCodes⟩
  else items.mapM fun j => do narrow name (← require name (.notKeyCode j) (code? j))

def strings (params : Params) (name : String) : Argument (List String) := do
  let entries ← (← params.list name).mapM fun j => require name (.notString j) j.string?
  if entries.isEmpty then .error ⟨name, .noEntries⟩ else .ok entries

/-! ## Flags -/

def flag? : Json → Option Bool
  | .bool b => some b
  | .string s =>
    let word := String.ofList (Text.asciiLower (Text.trim s.toList))
    if word ∈ ["true", "yes", "1"] then some true
    else if word ∈ ["false", "no", "0"] then some false
    else none
  | _ => none

def optionalFlag (params : Params) (name : String) : Argument (Option Bool) :=
  match params.present? name with
  | none => .ok none
  | some j => (require name (.notFlag j) (flag? j)).map some

/-- A flag that is off unless it is set. -/
def flag (params : Params) (name : String) : Argument Bool := do
  return (← params.optionalFlag name).getD false

end Params

end SimControl
