/-
The settings of the controller.

Every setting has a default and may be given as text under a key.  A text that is not of
the wanted kind, and a number that is out of place, stop the controller before it
starts; of several faults the one that is met first in the order of `ofTexts` is told.
-/
import ControlPlane.Config.SocketAddress
import ControlPlane.Error

namespace ControlPlane

structure Config where
  /-- The namespace to watch; none means all of them. -/
  watchNamespace : Option String
  /-- The budget of a look-up of secrets. -/
  secretLookupTimeout : Duration
  /-- The budget of a call about machines. -/
  machinePollTimeout : Duration
  /-- The budget of a call of the installer. -/
  installerTimeout : Duration
  /-- How long to wait before looking again for something outside. -/
  signalPollInterval : Duration
  /-- The number of control-plane machines. -/
  replicas : Nat
  /-- Where probes and metrics are served. -/
  probeAddress : SocketAddress
deriving DecidableEq

namespace Config

def standard : Config where
  watchNamespace := none
  secretLookupTimeout := .ofSeconds 10
  machinePollTimeout := .ofSeconds 30
  installerTimeout := .ofSeconds 60
  signalPollInterval := .ofSeconds 30
  replicas := 3
  probeAddress := .v4 [0, 0, 0, 0] 8080

/-- A setting whose text is not of the wanted kind. -/
def unreadable (key raw reason : String) : ControllerError :=
  .invalidConfig (key ++ "=" ++ Text.quoted raw ++ ": " ++ reason)

/-- A whole number below a bound. -/
def readNumber (bound : Nat) (key raw : String) : Except ControllerError Nat :=
  match Text.readBounded bound (Text.trim raw.toList) with
  | .ok n => .ok n
  | .error e => .error (unreadable key raw e.message)

def readAddress (key raw : String) : Except ControllerError SocketAddress :=
  match SocketAddress.read? (Text.trim raw.toList) with
  | some a => .ok a
  | none => .error (unreadable key raw "invalid socket address syntax")

/-- A number of seconds above zero. -/
def readSeconds (key : String) (fallback : Duration) :
    Option String → Except ControllerError Duration
  | none => .ok fallback
  | some raw => do
    let n ← readNumber UInt64.size key raw
    if n = 0 then .error (.invalidConfig (key ++ " must be greater than 0")) else .ok (.ofSeconds n)

/-- A number of machines, one at least. -/
def readReplicas (key : String) (fallback : Nat) : Option String → Except ControllerError Nat
  | none => .ok fallback
  | some raw => do
    let n ← readNumber UInt32.size key raw
    if n = 0 then .error (.invalidConfig (key ++ " must be at least 1")) else .ok n

/-- The settings from the texts of their keys; a key without a text keeps its default. -/
def ofTexts (text : String → Option String) : Except ControllerError Config := do
  let replicas ← readReplicas "CONTROL_PLANE_REPLICAS" standard.replicas
    (text "CONTROL_PLANE_REPLICAS")
  let probeAddress ← match text "PROBE_BIND_ADDRESS" with
    | none => .ok standard.probeAddress
    | some raw => readAddress "PROBE_BIND_ADDRESS" raw
  let seconds := fun key fallback => readSeconds key fallback (text key)
  let secretLookupTimeout ← seconds "SECRET_LOOKUP_TIMEOUT_SECS" standard.secretLookupTimeout
  let machinePollTimeout ← seconds "MACHINE_POLL_TIMEOUT_SECS" standard.machinePollTimeout
  let installerTimeout ← seconds "INSTALLER_TIMEOUT_SECS" standard.installerTimeout
  let signalPollInterval ← seconds "SIGNAL_POLL_INTERVAL_SECS" standard.signalPollInterval
  .ok { watchNamespace := (text "WATCH_NAMESPACE").filter (!·.isEmpty)
        secretLookupTimeout, machinePollTimeout, installerTimeout, signalPollInterval, replicas,
        probeAddress }

end Config

end ControlPlane
