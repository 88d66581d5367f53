import FaultInjection.Settings.Basic
import FaultInjection.Settings.Source

/-!
# Loading settings

`Settings.load?` merges the defaults, a file and the environment, in this order, and reads the tree.
Scalars are converted to what a setting needs: truth values from numbers and from words, numbers from
truth values, from words and from the digits of a text, texts from anything that has one. A section
is a table, or a list that gives its settings in their order. What the tree lacks has its default.
-/

namespace FaultInjection.Settings

open Decimal

/-- Words for true. -/
def trueWords : List (List Char) := ["true".toList, "on".toList, "yes".toList]

/-- Words for false. -/
def falseWords : List (List Char) := ["false".toList, "off".toList, "no".toList]

/-- A node as a text. -/
def Node.text? : Node → Option String
  | text s => some s
  | bool b => some (if b then "true" else "false")
  | integer n => some (String.ofList ((if n < 0 then ['-'] else []) ++ naturalDigits n.natAbs))
  | float x => some x.display
  | _ => none

/-- A node as a truth value. -/
def Node.bool? : Node → Option Bool
  | bool b => some b
  | integer n => some (n != 0)
  | float x => some (!x.isZero)
  | text s =>
    let word := Extended.lowered s.toList
    if (['1'] :: trueWords).contains word then some true
    else if (['0'] :: falseWords).contains word then some false else none
  | _ => none

/-- A node as a natural number of sixty-four bits. -/
def Node.word? : Node → Option Nat
  | integer n => if 0 ≤ n then some n.toNat else none
  | bool b => some (if b then 1 else 0)
  | float x => some (x.roundNat maxWord)
  | text s =>
    let lower := Extended.lowered s.toList
    if trueWords.contains lower then some 1
    else if falseWords.contains lower then some 0 else unsigned? (maxWord + 1) s.toList
  | _ => none

/-- A node as a port. -/
def Node.port? (n : Node) : Option Nat := n.word?.filter (· ≤ maxPort)

/-- A node as a log format, by its word or as a table with the word for its only name. -/
def Node.logFormat? : Node → Option LogFormat
  | text s => LogFormat.named? s
  | table [(name, _)] => LogFormat.named? name
  | _ => none

/-- Whether a node can be a section. -/
def Node.isSection : Node → Bool
  | table _ | list _ => true
  | _ => false

/-- The setting of a section with a name, which is also at a place. -/
def Node.setting? (n : Node) (name : String) (place : Nat) : Option Node :=
  match n with
  | list xs => xs[place]?
  | n => n.field? name

/-- Read a setting of a section with `read`; one that is not given has its default. -/
def Node.read {α : Type} (n : Node) (name : String) (place : Nat) (read : Node → Option α)
    (default : α) : Option α :=
  match n.setting? name place with
  | none => some default
  | some v => read v

/-- The control plane. -/
def Node.server? (n : Node) : Option ServerSettings := do
  guard n.isSection
  let host ← n.read "host" 0 Node.text? defaultHost
  let port ← n.read "port" 1 Node.port? ServerSettings.defaultPort
  let maxBodyBytes ← n.read "max_body_bytes" 2 Node.word? ServerSettings.defaultMaxBodyBytes
  let timeout ← n.read "shutdown_timeout_secs" 3 Node.word? ServerSettings.defaultShutdownTimeoutSecs
  return ⟨host, port, maxBodyBytes, timeout⟩

/-- The demonstration plane. -/
def Node.demo? (n : Node) : Option DemoSettings := do
  guard n.isSection
  let enabled ← n.read "enabled" 0 Node.bool? defaultTrue
  let host ← n.read "host" 1 Node.text? defaultHost
  let port ← n.read "port" 2 Node.port? DemoSettings.defaultPort
  return ⟨enabled, host, port⟩

/-- The telemetry. -/
def Node.telemetry? (n : Node) : Option TelemetrySettings := do
  guard n.isSection
  let filter ← n.read "log_filter" 0 Node.text? TelemetrySettings.defaultLogFilter
  let format ← n.read "log_format" 1 Node.logFormat? LogFormat.default
  return ⟨filter, format⟩

/-- All settings. -/
def Node.settings? (n : Node) : Option Settings := do
  guard n.isSection
  let server ← n.read "server" 0 Node.server? ServerSettings.default
  let demo ← n.read "demo" 1 Node.demo? DemoSettings.default
  let failpoints ← n.read "failpoints" 2 Node.text? ""
  let telemetry ← n.read "telemetry" 3 Node.telemetry? TelemetrySettings.default
  return ⟨server, demo, failpoints, telemetry⟩

/-- The tree of all layers. -/
def tree (file : Layer) (environment : List (String × String)) : Node :=
  addLayer (addLayer (addLayer (.table []) defaults) file) (environmentLayer environment)

/-- Load the settings, unless the file cannot be read or a value does not fit. -/
def load? (file : Option File) (environment : List (String × String)) : Option Settings := do
  let layer ← match file with
    | none => some []
    | some f => f.layer?
  (tree layer environment).settings?

end FaultInjection.Settings
