import SimControl.Catalog.Definition

/-!
# Applications

Installing, launching and removing applications.
-/

namespace SimControl.Catalog.App

def bundleId : Parameter :=
  { name := "bundleId", type := .string, extractor := some .trimmed,
    description := some "Bundle identifier of the application, e.g. com.apple.mobilesafari." }

def installApp : Entry where
  name := "install app"
  kind := .installApp
  description := "Installs an application on the simulator"
  patterns :=
    [r"\binstalar\s+(la\s+)?app(\s+en\s+la\s+ruta)?\s+(?P<appPath>[^\s,]+)",
      r"\binstalar\s+(la\s+)?aplicación(\s+en\s+la\s+ruta)?\s+(?P<appPath>[^\s,]+)",
      r"\binstall\s+(the\s+)?app(\s+at)?\s+(?P<appPath>[^\s,]+)",
      r"\binstall\s+(the\s+)?application(\s+at)?\s+(?P<appPath>[^\s,]+)"]
  required := ["appPath"]
  optional := ["sessionId"]
  parameters :=
    [{ name := "appPath", type := .string, extractor := some .trimmed,
        description := some "Path to the .app bundle or .ipa archive to install." },
      sessionId]
  examples :=
    ["instalar app /ruta/a/la/app.ipa",
      "instalar la aplicación /ruta/a/la/app.app",
      "install app /path/to/app.ipa",
      "install application /path/to/app.app"]

def launchApp : Entry where
  name := "launch app"
  kind := .launchApp
  description := "Launches an application on the simulator"
  patterns :=
    [r"lanzar\s+(la\s+)?app\s+(?P<bundleId>[^\s,]+)",
      r"abrir\s+(la\s+)?app\s+(?P<bundleId>[^\s,]+)",
      r"iniciar\s+(la\s+)?app\s+(?P<bundleId>[^\s,]+)",
      r"launch\s+(the\s+)?app\s+(?P<bundleId>[^\s,]+)",
      r"open\s+(the\s+)?app\s+(?P<bundleId>[^\s,]+)",
      r"start\s+(the\s+)?app\s+(?P<bundleId>[^\s,]+)"]
  required := ["bundleId"]
  optional := ["sessionId"]
  parameters := [bundleId, sessionId]
  examples :=
    ["lanzar app com.example.app",
      "abrir app com.apple.mobilesafari",
      "launch app com.example.app",
      "open app com.apple.mobilesafari"]

def terminateApp : Entry where
  name := "terminate app"
  kind := .terminateApp
  description := "Terminates a running application"
  patterns :=
    [r"terminar\s+(la\s+)?app\s+(?P<bundleId>[^\s,]+)",
      r"cerrar\s+(la\s+)?app\s+(?P<bundleId>[^\s,]+)",
      r"matar\s+(la\s+)?app\s+(?P<bundleId>[^\s,]+)",
      r"terminate\s+(the\s+)?app\s+(?P<bundleId>[^\s,]+)",
      r"close\s+(the\s+)?app\s+(?P<bundleId>[^\s,]+)",
      r"kill\s+(the\s+)?app\s+(?P<bundleId>[^\s,]+)"]
  required := ["bundleId"]
  optional := ["sessionId"]
  parameters := [bundleId, sessionId]
  examples :=
    ["terminar app com.example.app",
      "cerrar app com.apple.mobilesafari",
      "matar app com.example.app",
      "terminate app com.example.app",
      "close app com.apple.mobilesafari",
      "kill app com.example.app"]

def uninstallApp : Entry where
  name := "uninstall app"
  kind := .uninstallApp
  description := "Uninstalls an application"
  patterns :=
    [r"desinstalar\s+(la\s+)?app\s+(?P<bundleId>[^\s,]+)",
      r"eliminar\s+(la\s+)?app\s+(?P<bundleId>[^\s,]+)",
      r"borrar\s+(la\s+)?app\s+(?P<bundleId>[^\s,]+)",
      r"uninstall\s+(the\s+)?app\s+(?P<bundleId>[^\s,]+)",
      r"remove\s+(the\s+)?app\s+(?P<bundleId>[^\s,]+)",
      r"delete\s+(the\s+)?app\s+(?P<bundleId>[^\s,]+)"]
  required := ["bundleId"]
  optional := ["sessionId"]
  parameters := [bundleId, sessionId]
  examples :=
    ["desinstalar app com.example.app",
      "eliminar app com.apple.mobilesafari",
      "borrar app com.example.app",
      "uninstall app com.example.app",
      "remove app com.apple.mobilesafari",
      "delete app com.example.app"]

def listApps : Entry where
  name := "list apps"
  kind := .listApps
  description := "Lists installed applications"
  patterns :=
    [r"listar\s+(las\s+)?apps",
      r"mostrar\s+(las\s+)?apps",
      r"qué\s+apps\s+(hay|están\s+instaladas)",
      r"list\s+(the\s+)?(installed\s+)?apps",
      r"show\s+(the\s+)?(installed\s+)?apps",
      r"what\s+apps\s+(are\s+there|are\s+installed)"]
  required := []
  optional := ["sessionId"]
  parameters := [sessionId]
  examples :=
    ["listar apps",
      "mostrar apps",
      "qué apps hay",
      "list apps",
      "show apps",
      "what apps are installed"]

def isAppInstalled : Entry where
  name := "is app installed"
  kind := .isAppInstalled
  description := "Checks if an app is installed"
  patterns :=
    [r"(está|esta)\s+instalada\s+(la\s+)?app\s+(?P<bundleId>[^\s,?]+)",
      r"is\s+(the\s+)?app\s+(?P<bundleId>[^\s,?]+)\s+installed",
      r"check\s+if\s+(the\s+)?app\s+(?P<bundleId>[^\s,?]+)\s+is\s+installed"]
  required := ["bundleId"]
  optional := ["sessionId"]
  parameters := [bundleId, sessionId]
  examples :=
    ["está instalada la app com.example.app",
      "is app com.example.app installed",
      "check if app com.apple.mobilesafari is installed"]

def entries : List Entry :=
  [installApp, launchApp, terminateApp, uninstallApp, listApps, isAppInstalled]

end SimControl.Catalog.App
