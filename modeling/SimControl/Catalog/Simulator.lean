import SimControl.Catalog.Definition

/-!
# Simulators

Sessions and the life cycle of simulators.
-/

namespace SimControl.Catalog.Simulator

def udid : Parameter :=
  { name := "udid", type := .string, extractor := some .uppercase,
    description := some "Simulator device UDID." }

def createSimulatorSession : Entry where
  name := "create simulator session"
  kind := .createSimulatorSession
  description := "Creates a new simulator session"
  patterns :=
    [r"crear\s+(una\s+)?(nueva\s+)?sesión(\s+de\s+simulador)?(\s+(con|para)\s+(?P<deviceName>[^,]+?))?(\s+ios\s+(?P<platformVersion>\d+(\.\d+)*))?\s*$",
      r"create\s+(a\s+)?(new\s+)?(simulator\s+)?session(\s+(with|for|on)\s+(?P<deviceName>[^,]+?))?(\s+ios\s+(?P<platformVersion>\d+(\.\d+)*))?\s*$",
      r"(start|open)\s+(a\s+)?(new\s+)?simulator\s+session"]
  required := []
  optional := ["deviceName", "platformVersion", "autoboot"]
  parameters :=
    [{ name := "deviceName", type := .string, extractor := some .trimmed,
        description := some "Device model to simulate, e.g. iPhone 15 Pro." },
      { name := "platformVersion", type := .string, extractor := some .trimmed,
        description := some "iOS runtime version, e.g. 17.2." },
      { name := "autoboot", type := .boolean,
        description := some "Boot the simulator as part of session creation." }]
  examples :=
    ["crear sesión",
      "crear una nueva sesión con iPhone 15",
      "create session",
      "create simulator session with iPhone 15 Pro",
      "create a new session for iPad Air ios 17.2"]

def terminateSimulatorSession : Entry where
  name := "terminate simulator session"
  kind := .terminateSimulatorSession
  description := "Terminates the current simulator session"
  patterns :=
    [r"(terminar|cerrar|finalizar)\s+(la\s+)?sesión",
      r"(terminate|end|close)\s+(the\s+)?(simulator\s+)?session"]
  required := []
  optional := ["sessionId"]
  parameters := [sessionId]
  examples :=
    ["terminar sesión",
      "cerrar la sesión",
      "terminate session",
      "end simulator session"]

def listAvailableSimulators : Entry where
  name := "list available simulators"
  kind := .listAvailableSimulators
  description := "Lists the simulators available on this host"
  patterns :=
    [r"listar\s+(los\s+)?simuladores(\s+disponibles)?\s*$",
      r"mostrar\s+(los\s+)?simuladores(\s+disponibles)?\s*$",
      r"(list|show)\s+(the\s+)?(available\s+)?simulators\s*$"]
  required := []
  optional := []
  parameters := []
  examples :=
    ["listar simuladores",
      "mostrar simuladores disponibles",
      "list simulators",
      "list available simulators"]

def listBootedSimulators : Entry where
  name := "list booted simulators"
  kind := .listBootedSimulators
  description := "Lists the simulators that are currently booted"
  patterns :=
    [r"(listar|mostrar)\s+(los\s+)?simuladores\s+(arrancados|iniciados)",
      r"(list|show)\s+(the\s+)?(booted|running)\s+simulators"]
  required := []
  optional := []
  parameters := []
  examples :=
    ["listar simuladores arrancados",
      "list booted simulators",
      "show running simulators"]

def bootSimulator : Entry where
  name := "boot simulator"
  kind := .bootSimulator
  description := "Boots a simulator by UDID"
  patterns :=
    [r"(arrancar|iniciar)\s+(el\s+)?simulador\s+(?P<udid>[0-9A-Fa-f]{8}-[0-9A-Fa-f]{4}-[0-9A-Fa-f]{4}-[0-9A-Fa-f]{4}-[0-9A-Fa-f]{12})",
      r"(boot|start)\s+(the\s+)?simulator\s+(?P<udid>[0-9A-Fa-f]{8}-[0-9A-Fa-f]{4}-[0-9A-Fa-f]{4}-[0-9A-Fa-f]{4}-[0-9A-Fa-f]{12})"]
  required := ["udid"]
  optional := []
  parameters := [udid]
  examples :=
    ["arrancar simulador 5A1B2C3D-1111-2222-3333-444455556666",
      "boot simulator 5A1B2C3D-1111-2222-3333-444455556666"]

def shutdownSimulator : Entry where
  name := "shutdown simulator"
  kind := .shutdownSimulator
  description := "Shuts down a simulator by UDID, or the session simulator"
  patterns :=
    [r"(apagar|detener)\s+(el\s+)?simulador(\s+(?P<udid>[0-9A-Fa-f]{8}-[0-9A-Fa-f]{4}-[0-9A-Fa-f]{4}-[0-9A-Fa-f]{4}-[0-9A-Fa-f]{12}))?",
      r"(shutdown|shut\s+down|stop)\s+(the\s+)?simulator(\s+(?P<udid>[0-9A-Fa-f]{8}-[0-9A-Fa-f]{4}-[0-9A-Fa-f]{4}-[0-9A-Fa-f]{4}-[0-9A-Fa-f]{12}))?"]
  required := []
  optional := ["udid", "sessionId"]
  parameters := [udid, sessionId]
  examples :=
    ["apagar simulador",
      "shutdown simulator",
      "shut down simulator 5A1B2C3D-1111-2222-3333-444455556666"]

def focusSimulator : Entry where
  name := "focus simulator"
  kind := .focusSimulator
  description := "Brings the simulator window to the foreground"
  patterns :=
    [r"(enfocar|mostrar)\s+(la\s+ventana\s+del\s+|el\s+)?simulador\s*$",
      r"(focus|bring\s+up)\s+(the\s+)?simulator(\s+window)?"]
  required := []
  optional := ["sessionId"]
  parameters := [sessionId]
  examples := ["enfocar simulador", "focus simulator", "bring up the simulator window"]

def isSimulatorBooted : Entry where
  name := "is simulator booted"
  kind := .isSimulatorBooted
  description := "Checks whether the session simulator is booted"
  patterns :=
    [r"(está|esta)\s+(el\s+)?simulador\s+(arrancado|iniciado)",
      r"is\s+(the\s+)?simulator\s+(booted|running)"]
  required := []
  optional := ["sessionId"]
  parameters := [sessionId]
  examples := ["está el simulador arrancado", "is simulator booted", "is the simulator running"]

def entries : List Entry :=

    [createSimulatorSession,
      terminateSimulatorSession,
      listAvailableSimulators,
      listBootedSimulators,
      bootSimulator,
      shutdownSimulator,
      focusSimulator,
      isSimulatorBooted]

end SimControl.Catalog.Simulator
