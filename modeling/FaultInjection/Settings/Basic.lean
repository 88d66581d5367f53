import FaultInjection.Decimal.Numeral
import FaultInjection.Duration

/-!
# Settings

What can be configured, with the values that hold when nothing else is said.
-/

namespace FaultInjection

/-- The address and the limits of the control plane. -/
structure ServerSettings where
  host : String
  port : Nat
  maxBodyBytes : Nat
  shutdownTimeoutSecs : Nat
  deriving DecidableEq, Repr

/-- The address of the demonstration plane, and whether it runs. -/
structure DemoSettings where
  enabled : Bool
  host : String
  port : Nat
  deriving DecidableEq, Repr

/-- How log events are written. -/
inductive LogFormat where
  | text
  | json
  deriving DecidableEq, Repr

/-- Which log events are written, and how. -/
structure TelemetrySettings where
  logFilter : String
  logFormat : LogFormat
  deriving DecidableEq, Repr

/-- All settings. `failpoints` is a bulk text of terms to install at the start. -/
structure Settings where
  server : ServerSettings
  demo : DemoSettings
  failpoints : String
  telemetry : TelemetrySettings
  deriving DecidableEq, Repr

/-- Host and port as one address. -/
def socketAddress (host : String) (port : Nat) : String :=
  host ++ ":" ++ String.ofList (Decimal.naturalDigits port)

/-- The host of a plane for which none is given. -/
def Settings.defaultHost : String := "127.0.0.1"

/-- What a switch is that is on unless it is given. -/
def Settings.defaultTrue : Bool := true

namespace ServerSettings

/-- The port when none is given. -/
def defaultPort : Nat := 1234

/-- What a body may weigh when nothing is given. -/
def defaultMaxBodyBytes : Nat := 64 * 1024

/-- How long to wait at the end when nothing is given. -/
def defaultShutdownTimeoutSecs : Nat := 30

/-- The control plane of an unconfigured process. -/
def default : ServerSettings :=
  ⟨Settings.defaultHost, defaultPort, defaultMaxBodyBytes, defaultShutdownTimeoutSecs⟩

/-- The address to listen on. -/
def bindAddress (s : ServerSettings) : String := socketAddress s.host s.port

/-- How long to wait for requests at the end. -/
def shutdownTimeout (s : ServerSettings) : Duration := ⟨s.shutdownTimeoutSecs * 1000000000⟩

end ServerSettings

namespace DemoSettings

/-- The port when none is given. -/
def defaultPort : Nat := 8080

/-- The demonstration plane of an unconfigured process. -/
def default : DemoSettings := ⟨true, Settings.defaultHost, defaultPort⟩

/-- The address to listen on. -/
def bindAddress (s : DemoSettings) : String := socketAddress s.host s.port

end DemoSettings

namespace LogFormat

/-- The format when none is given. -/
def default : LogFormat := text

/-- The word for a format. -/
def name : LogFormat → String
  | text => "text"
  | json => "json"

/-- The format that a word names. -/
def named? (s : String) : Option LogFormat := [text, json].find? (·.name == s)

end LogFormat

namespace TelemetrySettings

/-- The filter when none is given. -/
def defaultLogFilter : String :=
  "failswitch=info,application=info,presentation_http=info,tower_http=info"

/-- The telemetry of an unconfigured process. -/
def default : TelemetrySettings := ⟨defaultLogFilter, LogFormat.default⟩

/-- Why telemetry cannot be started a second time in one process. -/
def refusal : String :=
  "Failed to initialize tracing: a global default trace dispatcher has already been set"

end TelemetrySettings

/-- The settings of an unconfigured process. -/
def Settings.default : Settings :=
  ⟨ServerSettings.default, DemoSettings.default, "", TelemetrySettings.default⟩

/-- The greatest port. -/
def maxPort : Nat := 65535

/-- The greatest number of sixty-four bits. -/
def maxWord : Nat := Decimal.wordBound - 1

end FaultInjection
