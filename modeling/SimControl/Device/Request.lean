import SimControl.CommandKind
import SimControl.Device.Argument
import SimControl.Device.Operation

/-!
# From a command to a call and back

`Operation.ofParams` reads all arguments of a command from its parameters before anything is asked
of a device. `Call.answer` is what the command reports: the reply of the device if it says
something, else an echo of the arguments, which are again parameters of the same command.
-/

namespace SimControl

/-! ## Requests -/

def Params.point (params : Params) (x y : String) : Argument Point := do
  return ⟨← params.number x, ← params.number y⟩

/-- The operation that a command stands for. -/
def Operation.ofParams (kind : CommandKind) (params : Params) : Argument Operation := do
  match kind with
  | .describeElements => return .describeElements
  | .describePoint => return .describePoint (← params.point "x" "y")
  | .installApp => return .installApp (← params.text "appPath")
  | .launchApp => return .launchApp (← params.text "bundleId")
  | .terminateApp => return .terminateApp (← params.text "bundleId")
  | .uninstallApp => return .uninstallApp (← params.text "bundleId")
  | .listApps => return .listApps
  | .isAppInstalled => return .isAppInstalled (← params.text "bundleId")
  | .takeScreenshot => return .takeScreenshot (params.optionalText "outputPath")
  | .recordVideo => return .startRecording (← params.text "outputPath")
  | .stopRecording => return .stopRecording (params.optionalText "recordingId")
  | .getSystemLogs =>
    return .systemLogs (params.optionalText "bundleId") (params.optionalText "timeout")
  | .getAppLogs => return .appLogs (← params.text "bundleId") (params.optionalText "timeout")
  | .startDebug => return .startDebug (← params.text "bundleId")
  | .stopDebug => return .stopDebug
  | .debugStatus => return .debugStatus
  | .listCrashLogs => return .listCrashLogs (params.optionalText "bundleId")
  | .showCrashLog => return .showCrashLog (← params.text "crashName")
  | .deleteCrashLogs =>
    return .deleteCrashLogs (params.optionalText "bundleId") (← params.flag "all")
  | .createSimulatorSession =>
    return .createSession (params.optionalText "deviceName")
      (params.optionalText "platformVersion") (← params.flag "autoboot")
  | .terminateSimulatorSession => return .terminateSession
  | .listAvailableSimulators => return .listAvailable
  | .listBootedSimulators => return .listBooted
  | .bootSimulator => return .boot (← params.text "udid")
  | .shutdownSimulator =>
    match params.optionalText "udid" with
    | some udid => return .shutdownDevice udid
    | none => return .shutdown
  | .focusSimulator => return .focus
  | .isSimulatorBooted => return .isBooted
  | .tap => return .tap (← params.point "x" "y")
  | .swipe =>
    return .swipe (← params.point "startX" "startY") (← params.point "endX" "endY")
      (← params.optionalNatural "duration")
  | .pressDeviceButton =>
    return .pressButton (← params.button "button") (← params.optionalNatural "duration")
  | .inputText => return .inputText (← params.text "text")
  | .pressKey =>
    return .pressKey (← params.keyCode "keyCode") (← params.optionalNatural "duration")
  | .pressKeySequence => return .pressKeys (← params.keyCodes "keyCodes")
  | .installDylib => return .installDylib (← params.text "dylibPath")
  | .openUrl => return .openUrl (← params.text "url")
  | .clearKeychain => return .clearKeychain
  | .setLocation =>
    return .setLocation (← params.number "latitude") (← params.number "longitude")
  | .addMedia => return .addMedia (← params.strings "mediaPaths")
  | .approvePermissions =>
    return .approvePermissions (← params.text "bundleId") (← params.strings "permissions")
  | .updateContacts => return .updateContacts (← params.text "dbPath")

/-! ## Answers -/

/-- A whole number of less than 64 bits is written as an integer. -/
def Json.ofCoordinate (x : Binary64) : Json :=
  let integer := if x.isWhole && x.wholePart < 2 ^ 63 then Json.Number.ofInt? x.toInt else none
  .number (integer.getD (.double x))

/-- The echo of a call whose reply says nothing. -/
def Call.echo? (c : Call) : Option Json :=
  let session := Json.record [("sessionId", .string c.session)]
  match c.operation with
  | .launchApp bundleId => some (.record [("bundleId", .string bundleId)])
  | .terminateApp bundleId => some (.record [("bundleId", .string bundleId)])
  | .uninstallApp bundleId => some (.record [("bundleId", .string bundleId)])
  | .stopDebug => some session
  | .terminateSession => some session
  | .boot udid => some (.record [("udid", .string udid)])
  | .shutdownDevice udid => some (.record [("udid", .string udid)])
  | .shutdown => some session
  | .focus => some session
  | .tap point => some (.record [("x", .ofCoordinate point.x), ("y", .ofCoordinate point.y)])
  | .swipe start stop duration =>
    some (.record ([("startX", .ofCoordinate start.x), ("startY", .ofCoordinate start.y),
      ("endX", .ofCoordinate stop.x), ("endY", .ofCoordinate stop.y)] ++
      (duration.map fun ms => ("duration", Json.ofUInt64 ms)).toList))
  | .pressButton button duration =>
    some (.record [("button", button.toJson), ("duration", Operation.optionalDuration duration)])
  | .inputText text => some (.record [("text", .string text)])
  | .pressKey code duration =>
    some (.record [("duration", Operation.optionalDuration duration), ("keyCode", .ofUInt32 code)])
  | .pressKeys codes => some (.record [("keyCodes", .array (codes.map .ofUInt32))])
  | .installDylib path => some (.record [("dylibPath", .string path)])
  | .openUrl url => some (.record [("url", .string url)])
  | .clearKeychain => some session
  | .setLocation latitude longitude =>
    some (.record [("latitude", .ofDouble latitude), ("longitude", .ofDouble longitude)])
  | .addMedia paths => some (.record [("mediaPaths", .ofStrings paths)])
  | .approvePermissions bundleId permissions =>
    some (.record [("bundleId", .string bundleId), ("permissions", .ofStrings permissions)])
  | .updateContacts path => some (.record [("dbPath", .string path)])
  | _ => none

/-- What a command answers when its call has been carried out with this reply. -/
def Call.answer (c : Call) (reply : Json) : Json :=
  match c.echo? with
  | some echo => echo
  | none => if c.operation.isQuestion then .bool (reply.same (.bool true)) else reply

end SimControl
