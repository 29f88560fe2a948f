import SimControl.Text.Blank
import SimControl.Text.Numeral

/-!
# Settings

How commands run unless they say otherwise: how long one may take, how often a transient failure
is tried again and after which pause, and the session to use when nothing names one.

Each setting has a variable in the environment that overrides it. White space around a value does
not count, and a variable with a blank value is as good as unset.
-/

namespace SimControl

structure Settings where
  /-- The bound on a whole command, retries included; none means unbounded. -/
  defaultTimeoutMs : Option UInt64 := none
  /-- Further attempts after a transient failure. -/
  defaultRetries : UInt32 := 0
  /-- The pause between attempts. -/
  retryDelayMs : UInt64 := 0
  defaultSessionId : Option String := none
  deriving DecidableEq, Repr, Inhabited

inductive SettingsError where
  | unreadable
  | malformed
  | invalidVariable (name value : String)
  deriving DecidableEq, Repr

def SettingsError.message : SettingsError → String
  | .unreadable => "Failed to read config"
  | .malformed => "Invalid config"
  | .invalidVariable name value => "Invalid value for " ++ name ++ ": '" ++ value ++ "'"

namespace Settings

def timeoutVariable : String := "SIMPILOT_TIMEOUT_MS"

def retriesVariable : String := "SIMPILOT_RETRIES"

def retryDelayVariable : String := "SIMPILOT_RETRY_DELAY_MS"

def sessionVariable : String := "SIMPILOT_SESSION_ID"

/-- The variables of an environment, by name. -/
abbrev Environment := String → Option String

/-- The trimmed value of a variable, unless it is blank. -/
def Environment.value? (env : Environment) (name : String) : Option (List Char) :=
  ((env name).map fun raw => Text.trim raw.toList).filter fun text => !text.isEmpty

/-- The value of a variable that has to be readable if it is set. -/
def Environment.read? (env : Environment) (name : String) (read : List Char → Option α) :
    Except SettingsError (Option α) :=
  match env.value? name with
  | none => .ok none
  | some text =>
    match read text with
    | some value => .ok (some value)
    | none => .error (.invalidVariable name (String.ofList text))

/-- The settings with those overrides that the environment has; the first unreadable one is an
error. -/
def withOverrides (s : Settings) (env : Environment) : Except SettingsError Settings := do
  let timeout ← env.read? timeoutVariable Text.uint64?
  let retries ← env.read? retriesVariable Text.uint32?
  let delay ← env.read? retryDelayVariable Text.uint64?
  let session := (env.value? sessionVariable).map String.ofList
  return {
    defaultTimeoutMs := timeout.or s.defaultTimeoutMs
    defaultRetries := retries.getD s.defaultRetries
    retryDelayMs := delay.getD s.retryDelayMs
    defaultSessionId := session.or s.defaultSessionId }

end SimControl.Settings
