import SimControl.Json.Basic
import SimControl.Text.Blank
import SimControl.Text.Case

/-!
# Kinds of commands

The forty things that a simulator can be told to do. Sequences and conditionals are built from
commands of these kinds and have no kind of their own.
-/

namespace SimControl

inductive CommandKind where
  | describeElements
  | describePoint
  | installApp
  | launchApp
  | terminateApp
  | uninstallApp
  | listApps
  | isAppInstalled
  | takeScreenshot
  | recordVideo
  | stopRecording
  | getSystemLogs
  | getAppLogs
  | startDebug
  | stopDebug
  | debugStatus
  | listCrashLogs
  | showCrashLog
  | deleteCrashLogs
  | createSimulatorSession
  | terminateSimulatorSession
  | listAvailableSimulators
  | listBootedSimulators
  | bootSimulator
  | shutdownSimulator
  | focusSimulator
  | isSimulatorBooted
  | tap
  | swipe
  | pressDeviceButton
  | inputText
  | pressKey
  | pressKeySequence
  | installDylib
  | openUrl
  | clearKeychain
  | setLocation
  | addMedia
  | approvePermissions
  | updateContacts
  deriving DecidableEq, Repr

namespace CommandKind

def all : List CommandKind :=
  [.describeElements, .describePoint, .installApp, .launchApp, .terminateApp, .uninstallApp,
    .listApps, .isAppInstalled, .takeScreenshot, .recordVideo, .stopRecording, .getSystemLogs,
    .getAppLogs, .startDebug, .stopDebug, .debugStatus, .listCrashLogs, .showCrashLog,
    .deleteCrashLogs, .createSimulatorSession, .terminateSimulatorSession,
    .listAvailableSimulators, .listBootedSimulators, .bootSimulator, .shutdownSimulator,
    .focusSimulator, .isSimulatorBooted, .tap, .swipe, .pressDeviceButton, .inputText, .pressKey,
    .pressKeySequence, .installDylib, .openUrl, .clearKeychain, .setLocation, .addMedia,
    .approvePermissions, .updateContacts]

theorem mem_all (kind : CommandKind) : kind ∈ all := by
  cases kind <;> decide

def label : CommandKind → String
  | .describeElements => "describeElements"
  | .describePoint => "describePoint"
  | .installApp => "installApp"
  | .launchApp => "launchApp"
  | .terminateApp => "terminateApp"
  | .uninstallApp => "uninstallApp"
  | .listApps => "listApps"
  | .isAppInstalled => "isAppInstalled"
  | .takeScreenshot => "takeScreenshot"
  | .recordVideo => "recordVideo"
  | .stopRecording => "stopRecording"
  | .getSystemLogs => "getSystemLogs"
  | .getAppLogs => "getAppLogs"
  | .startDebug => "startDebug"
  | .stopDebug => "stopDebug"
  | .debugStatus => "debugStatus"
  | .listCrashLogs => "listCrashLogs"
  | .showCrashLog => "showCrashLog"
  | .deleteCrashLogs => "deleteCrashLogs"
  | .createSimulatorSession => "createSimulatorSession"
  | .terminateSimulatorSession => "terminateSimulatorSession"
  | .listAvailableSimulators => "listAvailableSimulators"
  | .listBootedSimulators => "listBootedSimulators"
  | .bootSimulator => "bootSimulator"
  | .shutdownSimulator => "shutdownSimulator"
  | .focusSimulator => "focusSimulator"
  | .isSimulatorBooted => "isSimulatorBooted"
  | .tap => "tap"
  | .swipe => "swipe"
  | .pressDeviceButton => "pressDeviceButton"
  | .inputText => "inputText"
  | .pressKey => "pressKey"
  | .pressKeySequence => "pressKeySequence"
  | .installDylib => "installDylib"
  | .openUrl => "openUrl"
  | .clearKeychain => "clearKeychain"
  | .setLocation => "setLocation"
  | .addMedia => "addMedia"
  | .approvePermissions => "approvePermissions"
  | .updateContacts => "updateContacts"

/-- The kind with exactly this label. -/
def ofLabel? (label : String) : Option CommandKind :=
  all.find? fun kind => kind.label == label

/-- The kind whose label a person wrote, in any ASCII case and with white space around it. -/
def ofText? (text : String) : Option CommandKind :=
  let name := Text.trim text.toList
  all.find? fun kind => Text.sameAscii kind.label.toList name

/-- The kind that data stands for: its label, alone or as the key of a null. -/
def ofJson? : Json → Option CommandKind
  | .string label => ofLabel? label
  | .object [(label, .null)] => ofLabel? label
  | _ => none

/-- What is said of a text that is no kind. -/
def unknownMessage (text : String) : String :=
  "unknown command type '" ++ Text.trimmed text ++ "'"

end CommandKind

end SimControl
