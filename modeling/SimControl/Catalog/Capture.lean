import SimControl.Catalog.Definition

/-!
# Capture and logs

Screenshots, recordings and logs. Application logs come before system logs, whose patterns
also accept a bundle identifier at their end.
-/

namespace SimControl.Catalog.Capture

def outputPath : Parameter :=
  { name := "outputPath", type := .string, extractor := some .trimmed,
    description := some "Destination file path on the host." }

def logTimeout : Parameter :=
  { name := "timeout", type := .timeString }

def takeScreenshot : Entry where
  name := "capture screen"
  kind := .takeScreenshot
  description := "Captures a screenshot of the simulator"
  patterns :=
    [r"capturar\s+(la\s+)?pantalla(\s+en\s+(?P<outputPath>[^\s,]+))?",
      r"tomar\s+(una\s+)?captura(\s+en\s+(?P<outputPath>[^\s,]+))?",
      r"capture\s+(the\s+)?screen(\s+to\s+(?P<outputPath>[^\s,]+))?",
      r"take\s+(a\s+)?screenshot(\s+to\s+(?P<outputPath>[^\s,]+))?",
      r"screenshot(\s+(en|to)\s+(?P<outputPath>[^\s,]+))?"]
  required := []
  optional := ["outputPath", "sessionId"]
  parameters := [outputPath, sessionId]
  examples :=
    ["capturar pantalla",
      "screenshot en /ruta/captura.png",
      "tomar una captura",
      "capture screen",
      "take screenshot to /path/capture.png"]

def recordVideo : Entry where
  name := "record video"
  kind := .recordVideo
  description := "Starts video recording of the simulator"
  patterns :=
    [r"grabar\s+video\s+(?P<outputPath>[^\s,]+)",
      r"iniciar\s+grabación\s+de\s+video\s+(?P<outputPath>[^\s,]+)",
      r"record\s+video\s+(?P<outputPath>[^\s,]+)",
      r"start\s+recording\s+video\s+(?P<outputPath>[^\s,]+)",
      r"begin\s+video\s+recording\s+(?P<outputPath>[^\s,]+)"]
  required := ["outputPath"]
  optional := ["sessionId"]
  parameters := [outputPath, sessionId]
  examples :=
    ["grabar video /ruta/video.mp4",
      "iniciar grabación de video /ruta/salida.mp4",
      "record video /path/video.mp4",
      "start recording video /path/output.mp4"]

def stopRecording : Entry where
  name := "stop recording"
  kind := .stopRecording
  description := "Stops video recording of the simulator"
  patterns :=
    [r"detener\s+(la\s+)?grabación(\s+de\s+video)?",
      r"parar\s+(la\s+)?grabación(\s+de\s+video)?",
      r"stop\s+(video\s+)?recording",
      r"end\s+(video\s+)?recording"]
  required := []
  optional := ["recordingId", "sessionId"]
  parameters := [{ name := "recordingId", type := .string }, sessionId]
  examples :=
    ["detener grabación",
      "parar grabación de video",
      "stop recording",
      "end recording",
      "stop video recording"]

def getAppLogs : Entry where
  name := "get app logs"
  kind := .getAppLogs
  description := "Gets logs from a specific application"
  patterns :=
    [r"(obtener|mostrar)\s+(los\s+)?logs\s+de\s+la\s+(app|aplicación)\s+(?P<bundleId>[^\s,]+)",
      r"(get|show|display)\s+(the\s+)?app\s+logs\s+(for|of)\s+(?P<bundleId>[^\s,]+)",
      r"(get|show|display)\s+(the\s+)?logs\s+(for|of)\s+(the\s+)?app\s+(?P<bundleId>[^\s,]+)"]
  required := ["bundleId"]
  optional := ["timeout", "sessionId"]
  parameters :=
    [{ name := "bundleId", type := .string, extractor := some .trimmed },
      logTimeout,
      sessionId]
  examples :=
    ["obtener logs de la app com.example.app",
      "mostrar logs de la aplicación com.apple.mobilesafari",
      "get app logs for com.example.app",
      "show logs for app com.apple.mobilesafari"]

def getSystemLogs : Entry where
  name := "get system logs"
  kind := .getSystemLogs
  description := "Gets system logs"
  patterns :=
    [r"obtener\s+(los\s+)?logs(\s+de\s+(?P<bundleId>[^\s,]+))?",
      r"mostrar\s+(los\s+)?logs(\s+de\s+(?P<bundleId>[^\s,]+))?",
      r"get\s+(the\s+)?(system\s+)?logs(\s+for\s+(?P<bundleId>[^\s,]+))?",
      r"show\s+(the\s+)?(system\s+)?logs(\s+for\s+(?P<bundleId>[^\s,]+))?",
      r"display\s+(the\s+)?(system\s+)?logs(\s+for\s+(?P<bundleId>[^\s,]+))?"]
  required := []
  optional := ["bundleId", "timeout", "sessionId"]
  parameters :=
    [{ name := "bundleId", type := .string, extractor := some .trimmed,
        description := some "Only keep log lines emitted by this bundle identifier." },
      logTimeout,
      sessionId]
  examples :=
    ["obtener logs",
      "mostrar logs de com.example.app",
      "get logs for com.apple.mobilesafari",
      "show system logs",
      "display logs for com.example.app"]

def entries : List Entry :=
  [takeScreenshot, recordVideo, stopRecording, getAppLogs, getSystemLogs]

end SimControl.Catalog.Capture
