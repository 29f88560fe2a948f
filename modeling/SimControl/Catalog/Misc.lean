import SimControl.Catalog.Definition

/-!
# Miscellaneous

Libraries, links, the keychain, location, media, permissions and contacts.
-/

namespace SimControl.Catalog.Misc

/-- A path on the host. -/
def path (name description : String) : Parameter :=
  { name
    type := .string
    extractor := some .trimmed
    description := some description }

def installDylib : Entry where
  name := "install dylib"
  kind := .installDylib
  description := "Installs a dynamic library in the simulator"
  patterns :=
    [r"\binstalar\s+(la\s+)?(librería\s+)?dylib\s+(?P<dylibPath>[^\s,]+)",
      r"\binstall\s+(the\s+)?dylib\s+(?P<dylibPath>[^\s,]+)",
      r"inject\s+(the\s+)?dylib\s+(?P<dylibPath>[^\s,]+)"]
  required := ["dylibPath"]
  optional := ["sessionId"]
  parameters := [path "dylibPath" "Path to the .dylib on the host.", sessionId]
  examples :=
    ["instalar dylib /ruta/libtest.dylib",
      "install dylib /path/to/libinject.dylib",
      "inject dylib /tmp/libhook.dylib"]

def openUrl : Entry where
  name := "open url"
  kind := .openUrl
  description := "Opens a URL in the simulator"
  patterns :=
    [r"abrir\s+(la\s+)?(url|enlace)\s+(?P<url>\S+)",
      r"open\s+(the\s+)?(url|link)\s+(?P<url>\S+)",
      r"(navigate|go)\s+to\s+(?P<url>[a-z][a-z0-9+.-]*://\S+)"]
  required := ["url"]
  optional := ["sessionId"]
  parameters := [{ name := "url", type := .string, extractor := some .trimmed }, sessionId]
  examples :=
    ["abrir url https://example.com",
      "open url https://www.apple.com",
      "open link myapp://settings",
      "navigate to https://example.com/login"]

def clearKeychain : Entry where
  name := "clear keychain"
  kind := .clearKeychain
  description := "Clears the simulator keychain"
  patterns :=
    [r"(borrar|limpiar)\s+(el\s+)?(llavero|keychain)",
      r"(clear|reset)\s+(the\s+)?keychain"]
  required := []
  optional := ["sessionId"]
  parameters := [sessionId]
  examples := ["limpiar keychain", "borrar el llavero", "clear keychain", "reset the keychain"]

def setLocation : Entry where
  name := "set location"
  kind := .setLocation
  description := "Sets the simulated GPS location"
  patterns :=
    [r"(establecer|fijar|simular)\s+(la\s+)?ubicación\s+(en\s+)?(?P<latitude>-?\d+(\.\d+)?)\s*,\s*(?P<longitude>-?\d+(\.\d+)?)",
      r"(set|simulate)\s+(the\s+)?location\s+(to\s+)?(?P<latitude>-?\d+(\.\d+)?)\s*,\s*(?P<longitude>-?\d+(\.\d+)?)"]
  required := ["latitude", "longitude"]
  optional := ["sessionId"]
  parameters :=
    [{ name := "latitude", type := .number, extractor := some .decimal },
      { name := "longitude", type := .number, extractor := some .decimal },
      sessionId]
  examples :=
    ["establecer ubicación 40.4168, -3.7038",
      "fijar la ubicación en 41.3874, 2.1686",
      "set location 37.7749, -122.4194",
      "set location to 51.5074, -0.1278"]

def addMedia : Entry where
  name := "add media"
  kind := .addMedia
  description := "Adds photos or videos to the simulator camera roll"
  patterns :=
    [r"(añadir|agregar)\s+(archivos\s+)?(multimedia|media|fotos|videos)\s+(?P<mediaPaths>.+)",
      r"add\s+(media|photos?|videos?)\s+(?P<mediaPaths>.+)"]
  required := ["mediaPaths"]
  optional := ["sessionId"]
  parameters :=
    [{ name := "mediaPaths", type := .stringArray, extractor := some .stringList,
        description := some "Host paths of the media files to import." },
      sessionId]
  examples :=
    ["añadir multimedia /ruta/foto.jpg /ruta/video.mp4",
      "agregar fotos /ruta/a.png, /ruta/b.png",
      "add media /path/photo.jpg /path/clip.mov",
      "add photos /path/a.png and /path/b.png"]

def approvePermissions : Entry where
  name := "approve permissions"
  kind := .approvePermissions
  description := "Grants privacy permissions to an application"
  patterns :=
    [r"(aprobar|conceder)\s+(los\s+)?permisos\s+(de\s+)?(?P<permissions>[a-z_,\s]+?)\s+(para|a)\s+(?P<bundleId>[^\s,]+)",
      r"(approve|grant)\s+(?P<permissions>[a-z_,\s]+?)\s+permissions?\s+(to|for)\s+(?P<bundleId>[^\s,]+)",
      r"(approve|grant)\s+permissions?\s+(?P<permissions>[a-z_,\s]+?)\s+(to|for)\s+(?P<bundleId>[^\s,]+)"]
  required := ["bundleId", "permissions"]
  optional := ["sessionId"]
  parameters :=
    [{ name := "bundleId", type := .string, extractor := some .trimmed },
      { name := "permissions", type := .stringArray, extractor := some .lowercaseList,
        description := some "Permission services: photos, camera, contacts, url, location, notification, microphone." },
      sessionId]
  examples :=
    ["conceder permisos camera, photos para com.example.app",
      "grant photos and camera permissions to com.example.app",
      "approve permissions location for com.apple.Maps"]

def updateContacts : Entry where
  name := "update contacts"
  kind := .updateContacts
  description := "Replaces the simulator contacts database"
  patterns :=
    [r"(actualizar|importar)\s+(los\s+)?contactos\s+(desde\s+)?(?P<dbPath>[^\s,]+)",
      r"(update|import)\s+(the\s+)?contacts\s+(from\s+)?(?P<dbPath>[^\s,]+)"]
  required := ["dbPath"]
  optional := ["sessionId"]
  parameters := [path "dbPath" "Path to a contacts sqlite database on the host.", sessionId]
  examples :=
    ["actualizar contactos /ruta/contactos.sqlite",
      "update contacts /path/to/contacts.sqlite",
      "import contacts from /tmp/AddressBook.sqlitedb"]

def entries : List Entry :=

    [installDylib,
      openUrl,
      clearKeychain,
      setLocation,
      addMedia,
      approvePermissions,
      updateContacts]

end SimControl.Catalog.Misc
