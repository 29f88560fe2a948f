import SimControl.Json.Basic

/-!
# Types of parameters
-/

namespace SimControl

/-- What a parameter is declared to be. -/
inductive ParameterType where
  | string
  | number
  | boolean
  | stringArray
  | numberArray
  /-- A duration such as `30s` or `1m`. -/
  | timeString
  | choice (choices : List String)
  deriving DecidableEq, Repr

namespace ParameterType

def label : ParameterType → String
  | .string => "string"
  | .number => "number"
  | .boolean => "boolean"
  | .stringArray => "string-array"
  | .numberArray => "number-array"
  | .timeString => "time-string"
  | .choice _ => "choice"

/-- The type with a label; the choices only matter for a choice. -/
def ofLabel? (label : String) (choices : List String) : Option ParameterType :=
  [.string, .number, .boolean, .stringArray, .numberArray, .timeString, .choice choices].find?
    fun t => t.label == label

/-- Whether a value has the declared shape. -/
def accepts : ParameterType → Json → Bool
  | .string, value => value.isString
  | .timeString, value => value.isString
  | .number, value => value.isNumber
  | .boolean, value => value.isBool
  | .stringArray, .array items => items.all Json.isString
  | .numberArray, .array items => items.all Json.isNumber
  | .choice choices, .string s => choices.contains s
  | _, _ => false

end ParameterType

end SimControl
