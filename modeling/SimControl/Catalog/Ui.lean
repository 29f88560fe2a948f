import SimControl.Catalog.Definition
import SimControl.Device.Button

/-!
# User interaction

Taps, swipes, buttons, text and keys. Key sequences come before single keys, which would
otherwise take the first key of a sequence.
-/

namespace SimControl.Catalog.Ui

def coordinate (name : String) : Parameter :=
  { name, type := .number, extractor := some .integer }

def units : Parameter :=
  { name := "coordinateUnits", type := .choice ["points", "pixels"],
    description := some "Units of the supplied coordinates, \"points\" or \"pixels\". Defaults to points." }

def duration : Parameter :=
  { name := "duration", type := .number, extractor := some .optionalInteger,
    description := some "Duration in milliseconds." }

def tap : Entry where
  name := "tap"
  kind := .tap
  description := "Performs a tap at the specified coordinates"
  patterns :=
    [r"tap(\s+(at|en))?\s+(?P<x>\d+)\s*,\s*(?P<y>\d+)",
      r"tocar(\s+en)?\s+(?P<x>\d+)\s*,\s*(?P<y>\d+)",
      r"pulsar(\s+en)?\s+(?P<x>\d+)\s*,\s*(?P<y>\d+)"]
  required := ["x", "y"]
  optional := ["sessionId", "duration", "coordinateUnits"]
  parameters := [coordinate "x", coordinate "y", sessionId, duration, units]
  examples :=
    ["tap en 100, 200",
      "tocar 150, 300",
      "pulsar en 200, 400",
      "tap at 100, 200",
      "tap 150, 300"]

def swipe : Entry where
  name := "swipe"
  kind := .swipe
  description := "Performs a swipe from one point to another"
  patterns :=
    [r"swipe\s+from\s+(?P<startX>\d+)\s*,\s*(?P<startY>\d+)\s+to\s+(?P<endX>\d+)\s*,\s*(?P<endY>\d+)(\s+with\s+duration\s+(?P<duration>\d+))?",
      r"(deslizar|swipe)\s+desde\s+(?P<startX>\d+)\s*,\s*(?P<startY>\d+)\s+hasta\s+(?P<endX>\d+)\s*,\s*(?P<endY>\d+)(\s+con\s+duración\s+(?P<duration>\d+))?"]
  required := ["startX", "startY", "endX", "endY"]
  optional := ["duration", "sessionId", "coordinateUnits"]
  parameters :=
    [coordinate "startX",
      coordinate "startY",
      coordinate "endX",
      coordinate "endY",
      duration,
      sessionId,
      units]
  examples :=
    ["swipe desde 100, 200 hasta 300, 400",
      "deslizar desde 150, 300 hasta 150, 100 con duración 500",
      "swipe from 100, 200 to 300, 400",
      "swipe from 150, 300 to 150, 100 with duration 500"]

def pressDeviceButton : Entry where
  name := "press device button"
  kind := .pressDeviceButton
  description := "Presses a hardware device button"
  patterns :=
    [r"(presionar|pulsar)\s+(el\s+)?botón\s+del\s+dispositivo\s+(?P<button>APPLE_PAY|HOME|LOCK|SIDE_BUTTON|SIRI)",
      r"presionar\s+(el\s+)?botón\s+físico\s+(?P<button>APPLE_PAY|HOME|LOCK|SIDE_BUTTON|SIRI)",
      r"(press|push|tap)\s+(the\s+)?device\s+button\s+(?P<button>APPLE_PAY|HOME|LOCK|SIDE_BUTTON|SIRI)"]
  required := ["button"]
  optional := ["duration", "sessionId"]
  parameters :=
    [{ name := "button", type := .choice (DeviceButton.all.map DeviceButton.label),
        extractor := some .uppercase },
      duration,
      sessionId]
  examples :=
    ["presionar botón del dispositivo HOME",
      "pulsar botón del dispositivo SIRI",
      "presionar botón físico HOME",
      "press device button HOME",
      "push device button SIRI",
      "tap device button LOCK"]

def inputText : Entry where
  name := "input text"
  kind := .inputText
  description := "Inputs text in the simulator"
  patterns :=
    [r"(introducir|escribir)\s+texto\s+(?P<text>.+)",
      r"(input|type|enter)\s+text\s+(?P<text>.+)"]
  required := ["text"]
  optional := ["sessionId"]
  parameters := [{ name := "text", type := .string, extractor := some .trimmed }, sessionId]
  examples :=
    ["introducir texto Hola mundo",
      "escribir texto Prueba de texto",
      "input text Hello world",
      "type text Test message",
      "enter text Hello"]

def pressKeySequence : Entry where
  name := "press key sequence"
  kind := .pressKeySequence
  description := "Presses a sequence of keys"
  patterns :=
    [r"(presionar|pulsar)\s+secuencia\s+de\s+teclas\s+(?P<keyCodes>[\d\s,]+)",
      r"(press|type|enter)\s+key\s+sequence\s+(?P<keyCodes>[\d\s,]+)"]
  required := ["keyCodes"]
  optional := ["sessionId"]
  parameters :=
    [{ name := "keyCodes", type := .numberArray, extractor := some .integerList },
      sessionId]
  examples :=
    ["presionar secuencia de teclas 4 5 6",
      "pulsar secuencia de teclas 65 66 67",
      "press key sequence 4 5 6",
      "type key sequence 65 66 67",
      "enter key sequence 13 14 15"]

def pressKey : Entry where
  name := "press key"
  kind := .pressKey
  description := "Presses a specific key by its code"
  patterns :=
    [r"(presionar|pulsar)\s+(la\s+)?tecla\s+(?P<keyCode>\d+)",
      r"(press|hit|type)\s+key\s+(?P<keyCode>\d+)"]
  required := ["keyCode"]
  optional := ["duration", "sessionId"]
  parameters :=
    [{ name := "keyCode", type := .number, extractor := some .integer,
        description := some "HID keyboard usage code." },
      duration,
      sessionId]
  examples :=
    ["presionar tecla 4",
      "pulsar la tecla 65",
      "press key 4",
      "hit key 65",
      "type key 13"]

def entries : List Entry :=
  [tap, swipe, pressDeviceButton, inputText, pressKeySequence, pressKey]

end SimControl.Catalog.Ui
