import FaultInjection.Json.Parser
import FaultInjection.Settings.Basic

/-!
# Settings from JSON

Settings are read from JSON without any conversion: a text is a string, a number an integer in range.
A section is an object, in which unknown members are ignored and a known one may occur once, or an
array that gives the settings in their order and may stop early. What is not given has its default.
-/

namespace FaultInjection.Settings

/-- The members of a section as written, by name and by place. -/
inductive Members where
  | named (members : List (Option String × Json.Value))
  | listed (elements : List Json.Value)

/-- The members of a value that can be a section with these names. Every key has to be a text. -/
def members? (names : List String) : Json.Value → Option Members
  | .object ms =>
    if ms.all (·.1.isSome) && names.all fun n => (ms.filter (·.1 == some n)).length ≤ 1 then
      some (.named ms)
    else none
  | .array vs => if vs.length ≤ names.length then some (.listed vs) else none
  | _ => none

/-- The member with a name, which is also at a place. -/
def Members.get? (m : Members) (name : String) (place : Nat) : Option Json.Value :=
  match m with
  | named ms => ms.lookup (some name)
  | listed vs => vs[place]?

/-- Read a member with `read`; one that is not given has its default. -/
def readMember {α : Type} (m : Members) (name : String) (place : Nat)
    (read : Json.Value → Option α) (default : α) : Option α :=
  match m.get? name place with
  | none => some default
  | some v => read v

/-- A string. -/
def jsonText? : Json.Value → Option String
  | .string s => some s
  | _ => none

/-- A truth value. -/
def jsonBool? : Json.Value → Option Bool
  | .bool b => some b
  | _ => none

/-- A natural number up to `most`. -/
def jsonNatural? (most : Nat) : Json.Value → Option Nat
  | .number n =>
    match n.integer? with
    | some (.ofNat k) => if k ≤ most then some k else none
    | _ => none
  | _ => none

/-- A log format, by its word or as an object with the word for its only key. -/
def jsonLogFormat? : Json.Value → Option LogFormat
  | .string s => LogFormat.named? s
  | .object [(some key, .null)] => LogFormat.named? key
  | _ => none

/-- The control plane. -/
def jsonServer? (v : Json.Value) : Option ServerSettings := do
  let m ← members? ["host", "port", "max_body_bytes", "shutdown_timeout_secs"] v
  let host ← readMember m "host" 0 jsonText? defaultHost
  let port ← readMember m "port" 1 (jsonNatural? maxPort) ServerSettings.defaultPort
  let maxBodyBytes ←
    readMember m "max_body_bytes" 2 (jsonNatural? maxWord) ServerSettings.defaultMaxBodyBytes
  let timeout ← readMember m "shutdown_timeout_secs" 3 (jsonNatural? maxWord)
    ServerSettings.defaultShutdownTimeoutSecs
  return ⟨host, port, maxBodyBytes, timeout⟩

/-- The demonstration plane. -/
def jsonDemo? (v : Json.Value) : Option DemoSettings := do
  let m ← members? ["enabled", "host", "port"] v
  let enabled ← readMember m "enabled" 0 jsonBool? defaultTrue
  let host ← readMember m "host" 1 jsonText? defaultHost
  let port ← readMember m "port" 2 (jsonNatural? maxPort) DemoSettings.defaultPort
  return ⟨enabled, host, port⟩

/-- The telemetry. -/
def jsonTelemetry? (v : Json.Value) : Option TelemetrySettings := do
  let m ← members? ["log_filter", "log_format"] v
  let filter ← readMember m "log_filter" 0 jsonText? TelemetrySettings.defaultLogFilter
  let format ← readMember m "log_format" 1 jsonLogFormat? LogFormat.default
  return ⟨filter, format⟩

/-- All settings. -/
def ofJson? (v : Json.Value) : Option Settings := do
  let m ← members? ["server", "demo", "failpoints", "telemetry"] v
  let server ← readMember m "server" 0 jsonServer? ServerSettings.default
  let demo ← readMember m "demo" 1 jsonDemo? DemoSettings.default
  let failpoints ← readMember m "failpoints" 2 jsonText? ""
  let telemetry ← readMember m "telemetry" 3 jsonTelemetry? TelemetrySettings.default
  return ⟨server, demo, failpoints, telemetry⟩

/-- Read settings from a JSON text. -/
def parseJson? (text : String) : Option Settings := (Json.parse? text).bind ofJson?

/-- Read telemetry settings from a JSON text. -/
def parseTelemetryJson? (text : String) : Option TelemetrySettings :=
  (Json.parse? text).bind jsonTelemetry?

end FaultInjection.Settings
