import SimControl.Catalog.Definition

/-!
# Debugging

Debug sessions and crash logs.
-/

namespace SimControl.Catalog.Debug

def bundleId : Parameter :=
  { name := "bundleId", type := .string, extractor := some .trimmed }

def crashFilter : Parameter :=
  { name := "bundleId", type := .string, extractor := some .trimmed,
    description := some "Restrict the operation to crash logs produced by this bundle identifier." }

def startDebug : Entry where
  name := "start debug"
  kind := .startDebug
  description := "Starts a debug session for an application"
  patterns :=
    [r"iniciar\s+debug\s+(?P<bundleId>[^\s,]+)",
      r"start\s+debug\s+(?P<bundleId>[^\s,]+)",
      r"debug\s+app\s+(?P<bundleId>[^\s,]+)",
      r"begin\s+debug\s+(?P<bundleId>[^\s,]+)",
      r"launch\s+debug\s+(?P<bundleId>[^\s,]+)"]
  required := ["bundleId"]
  optional := ["sessionId"]
  parameters := [bundleId, sessionId]
  examples :=
    ["iniciar debug com.example.app",
      "start debug com.apple.mobilesafari",
      "debug app com.example.app",
      "begin debug com.example.app",
      "launch debug com.apple.mobilesafari"]

def stopDebug : Entry where
  name := "stop debug"
  kind := .stopDebug
  description := "Stops a debug session"
  patterns :=
    [r"detener\s+debug",
      r"parar\s+debug",
      r"stop\s+debug",
      r"end\s+debug",
      r"terminate\s+debug"]
  required := []
  optional := ["sessionId"]
  parameters := [sessionId]
  examples := ["detener debug", "parar debug", "stop debug", "end debug", "terminate debug"]

def debugStatus : Entry where
  name := "debug status"
  kind := .debugStatus
  description := "Gets the debug session status"
  patterns :=
    [r"estado\s+debug",
      r"status\s+debug",
      r"información\s+debug",
      r"debug\s+status",
      r"get\s+debug\s+status"]
  required := []
  optional := ["sessionId"]
  parameters := [sessionId]
  examples :=
    ["estado debug",
      "status debug",
      "información debug",
      "debug status",
      "get debug status"]

def listCrashLogs : Entry where
  name := "list crash logs"
  kind := .listCrashLogs
  description := "Lists available crash logs"
  patterns :=
    [r"(listar|mostrar)\s+crash\s+logs(\s+de\s+(?P<bundleId>[^\s,]+))?",
      r"(list|show|display)\s+crash\s+logs(\s+for\s+(?P<bundleId>[^\s,]+))?"]
  required := []
  optional := ["bundleId", "sessionId"]
  parameters := [crashFilter, sessionId]
  examples :=
    ["listar crash logs",
      "mostrar crash logs",
      "list crash logs",
      "show crash logs for com.example.app",
      "display crash logs"]

def showCrashLog : Entry where
  name := "show crash log"
  kind := .showCrashLog
  description := "Gets the content of a crash log"
  patterns :=
    [r"(mostrar|ver)\s+crash\s+log\s+(?P<crashName>[^\s,]+)",
      r"(show|display|view)\s+crash\s+log\s+(?P<crashName>[^\s,]+)"]
  required := ["crashName"]
  optional := ["sessionId"]
  parameters :=
    [{ name := "crashName", type := .string, extractor := some .trimmed,
        description := some "Name of the crash log as reported by list crash logs." },
      sessionId]
  examples :=
    ["mostrar crash log crash_2023-01-01",
      "ver crash log app_crash_123",
      "show crash log system_crash",
      "display crash log error_log_123",
      "view crash log app_crash_456"]

def deleteCrashLogs : Entry where
  name := "delete crash logs"
  kind := .deleteCrashLogs
  description := "Deletes crash logs"
  patterns :=
    [r"(eliminar|borrar)\s+(?P<all>todos\s+los\s+)?crash\s+logs(\s+de\s+(?P<bundleId>[^\s,]+))?",
      r"(delete|remove|clear)\s+(?P<all>all\s+)?crash\s+logs(\s+for\s+(?P<bundleId>[^\s,]+))?"]
  required := []
  optional := ["bundleId", "sessionId", "all"]
  parameters :=
    [crashFilter,
      sessionId,
      { name := "all", type := .boolean, extractor := some .flag }]
  examples :=
    ["eliminar crash logs",
      "borrar todos los crash logs",
      "delete crash logs for com.example.app",
      "remove crash logs",
      "clear all crash logs"]

def entries : List Entry :=
  [startDebug, stopDebug, debugStatus, listCrashLogs, showCrashLog, deleteCrashLogs]

end SimControl.Catalog.Debug
