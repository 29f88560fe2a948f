import SimControl.Device.Button
import SimControl.Json.Basic

/-!
# Operations

What a device can be asked to do, with typed arguments. An operation goes to a device together
with the session that it is for; a few are not about a session.
-/

namespace SimControl

/-- A position on a screen. -/
structure Point where
  x : Binary64
  y : Binary64
  deriving DecidableEq

inductive Operation where
  | describeElements
  | describePoint (point : Point)
  | installApp (path : String)
  | launchApp (bundleId : String)
  | terminateApp (bundleId : String)
  | uninstallApp (bundleId : String)
  | listApps
  | isAppInstalled (bundleId : String)
  | takeScreenshot (path : Option String)
  | startRecording (path : String)
  | stopRecording (recordingId : Option String)
  | systemLogs (bundleId : Option String) (timeout : Option String)
  | appLogs (bundleId : String) (timeout : Option String)
  | startDebug (bundleId : String)
  | stopDebug
  | debugStatus
  | listCrashLogs (bundleId : Option String)
  | showCrashLog (name : String)
  | deleteCrashLogs (bundleId : Option String) (all : Bool)
  | createSession (deviceName : Option String) (platformVersion : Option String) (autoboot : Bool)
  | terminateSession
  | listAvailable
  | listBooted
  | boot (udid : String)
  | shutdownDevice (udid : String)
  | shutdown
  | focus
  | isBooted
  | tap (point : Point)
  | swipe (start : Point) (stop : Point) (durationMs : Option UInt64)
  | pressButton (button : DeviceButton) (durationMs : Option UInt64)
  | inputText (text : String)
  | pressKey (code : UInt32) (durationMs : Option UInt64)
  | pressKeys (codes : List UInt32)
  | installDylib (path : String)
  | openUrl (url : String)
  | clearKeychain
  | setLocation (latitude : Binary64) (longitude : Binary64)
  | addMedia (paths : List String)
  | approvePermissions (bundleId : String) (permissions : List String)
  | updateContacts (path : String)
  deriving DecidableEq

namespace Operation

/-- The name under which an operation is recorded. -/
def name : Operation → String
  | .describeElements => "describe_all_elements"
  | .describePoint _ => "describe_point"
  | .installApp _ => "install_app"
  | .launchApp _ => "launch_app"
  | .terminateApp _ => "terminate_app"
  | .uninstallApp _ => "uninstall_app"
  | .listApps => "list_apps"
  | .isAppInstalled _ => "is_app_installed"
  | .takeScreenshot _ => "take_screenshot"
  | .startRecording _ => "start_recording"
  | .stopRecording _ => "stop_recording"
  | .systemLogs _ _ => "system_logs"
  | .appLogs _ _ => "app_logs"
  | .startDebug _ => "start_debug"
  | .stopDebug => "stop_debug"
  | .debugStatus => "debug_status"
  | .listCrashLogs _ => "list_crash_logs"
  | .showCrashLog _ => "show_crash_log"
  | .deleteCrashLogs _ _ => "delete_crash_logs"
  | .createSession _ _ _ => "create_session"
  | .terminateSession => "terminate_session"
  | .listAvailable => "list_available_simulators"
  | .listBooted => "list_booted_simulators"
  | .boot _ => "boot_simulator"
  | .shutdownDevice _ => "shutdown_simulator_by_udid"
  | .shutdown => "shutdown_simulator"
  | .focus => "focus_simulator"
  | .isBooted => "is_simulator_booted"
  | .tap _ => "tap"
  | .swipe _ _ _ => "swipe"
  | .pressButton _ _ => "press_button"
  | .inputText _ => "input_text"
  | .pressKey _ _ => "press_key"
  | .pressKeys _ => "press_key_sequence"
  | .installDylib _ => "install_dylib"
  | .openUrl _ => "open_url"
  | .clearKeychain => "clear_keychain"
  | .setLocation _ _ => "set_location"
  | .addMedia _ => "add_media"
  | .approvePermissions _ _ => "approve_permissions"
  | .updateContacts _ => "update_contacts"

/-- Whether an operation is about a session. -/
def needsSession : Operation → Bool
  | .createSession _ _ _ => false
  | .listAvailable => false
  | .listBooted => false
  | .boot _ => false
  | .shutdownDevice _ => false
  | _ => true

/-- Whether an operation asks a question that is answered by yes or no. -/
def isQuestion : Operation → Bool
  | .isAppInstalled _ => true
  | .isBooted => true
  | _ => false

/-! ## Arguments in data -/

def optionalText : Option String → Json :=
  .ofOption .string

def optionalDuration : Option UInt64 → Json :=
  .ofOption .ofUInt64

end Operation

def Point.toJson (p : Point) : Json :=
  .record [("x", .ofDouble p.x), ("y", .ofDouble p.y)]

def DeviceButton.toJson (b : DeviceButton) : Json :=
  .string b.label

def Json.ofUInt32 (n : UInt32) : Json :=
  .ofUInt64 n.toUInt64

namespace Operation

/-- The arguments as they are recorded. -/
def arguments : Operation → List (String × Json)
  | .describePoint point => [("x", .ofDouble point.x), ("y", .ofDouble point.y)]
  | .installApp path => [("appPath", .string path)]
  | .launchApp bundleId => [("bundleId", .string bundleId)]
  | .terminateApp bundleId => [("bundleId", .string bundleId)]
  | .uninstallApp bundleId => [("bundleId", .string bundleId)]
  | .isAppInstalled bundleId => [("bundleId", .string bundleId)]
  | .takeScreenshot path => [("outputPath", optionalText path)]
  | .startRecording path => [("outputPath", .string path)]
  | .stopRecording recordingId => [("recordingId", optionalText recordingId)]
  | .systemLogs bundleId timeout =>
    [("bundleId", optionalText bundleId), ("timeout", optionalText timeout)]
  | .appLogs bundleId timeout => [("bundleId", .string bundleId), ("timeout", optionalText timeout)]
  | .startDebug bundleId => [("bundleId", .string bundleId)]
  | .listCrashLogs bundleId => [("bundleId", optionalText bundleId)]
  | .showCrashLog name => [("crashName", .string name)]
  | .deleteCrashLogs bundleId all => [("all", .bool all), ("bundleId", optionalText bundleId)]
  | .createSession deviceName platformVersion autoboot =>
    ("autoboot", .bool autoboot) ::
      ((deviceName.map fun name => ("deviceName", Json.string name)).toList ++
        (platformVersion.map fun version => ("platformVersion", Json.string version)).toList)
  | .boot udid => [("udid", .string udid)]
  | .shutdownDevice udid => [("udid", .string udid)]
  | .tap point => [("x", .ofDouble point.x), ("y", .ofDouble point.y)]
  | .swipe start stop duration =>
    [("durationMs", optionalDuration duration), ("from", start.toJson), ("to", stop.toJson)]
  | .pressButton button duration =>
    [("button", button.toJson), ("durationMs", optionalDuration duration)]
  | .inputText text => [("text", .string text)]
  | .pressKey code duration =>
    [("durationMs", optionalDuration duration), ("keyCode", .ofUInt32 code)]
  | .pressKeys codes => [("keyCodes", .array (codes.map .ofUInt32))]
  | .installDylib path => [("dylibPath", .string path)]
  | .openUrl url => [("url", .string url)]
  | .setLocation latitude longitude =>
    [("latitude", .ofDouble latitude), ("longitude", .ofDouble longitude)]
  | .addMedia paths => [("mediaPaths", .ofStrings paths)]
  | .approvePermissions bundleId permissions =>
    [("bundleId", .string bundleId), ("permissions", .ofStrings permissions)]
  | .updateContacts path => [("dbPath", .string path)]
  | _ => []

end Operation

/-- An operation for a session. -/
structure Call where
  operation : Operation
  session : String
  deriving DecidableEq

namespace Call

/-- The session of a call that is about one. -/
def session? (c : Call) : Option String :=
  if c.operation.needsSession then some c.session else none

/-- The fields of a record of the call. -/
def fields (c : Call) : List (String × Json) :=
  [("args", .record c.operation.arguments), ("operation", .string c.operation.name)] ++
    (c.session?.map fun session => ("sessionId", Json.string session)).toList

def toJson (c : Call) : Json :=
  .record c.fields

end Call

end SimControl
