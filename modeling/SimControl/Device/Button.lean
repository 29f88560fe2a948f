import SimControl.Text.Blank
import SimControl.Text.Case

/-!
# Hardware buttons
-/

namespace SimControl

/-- The hardware buttons that a simulator can press. -/
inductive DeviceButton where
  | applePay
  | home
  | lock
  | sideButton
  | siri
  deriving DecidableEq, Repr

namespace DeviceButton

def all : List DeviceButton :=
  [.applePay, .home, .lock, .sideButton, .siri]

def label : DeviceButton → String
  | .applePay => "APPLE_PAY"
  | .home => "HOME"
  | .lock => "LOCK"
  | .sideButton => "SIDE_BUTTON"
  | .siri => "SIRI"

/-- The button whose label a person wrote, in any ASCII case and with white space around it. -/
def ofText? (text : String) : Option DeviceButton :=
  let name := Text.trim text.toList
  all.find? fun button => Text.sameAscii button.label.toList name

/-- What is said of a text that is no button. -/
def unknownMessage (text : String) : String :=
  "unknown device button '" ++ Text.trimmed text ++ "'"

end DeviceButton

end SimControl
