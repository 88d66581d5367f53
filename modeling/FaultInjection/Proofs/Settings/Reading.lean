import FaultInjection.Proofs.Settings.Place
import FaultInjection.Settings.Load
import Mathlib.Data.Option.Basic

/-!
# Settings by their names

`Setting` names the single settings. Each has a place in the tree (`path`), a value (`of`) and a way to get the
value from a node (`convert`). A tree whose sections are tables is read setting by setting: each one from what
stands at its place, or with its default (`read_of_settings?`, `settings?_of_read`).
-/

namespace FaultInjection

/-- A single setting. -/
inductive Setting where
  | serverHost
  | serverPort
  | maxBodyBytes
  | shutdownTimeoutSecs
  | demoEnabled
  | demoHost
  | demoPort
  | failpoints
  | logFilter
  | logFormat
  deriving DecidableEq, Repr

namespace Setting

open Settings

/-- The place of a setting. -/
def path : Setting → List String
  | serverHost => ["server", "host"]
  | serverPort => ["server", "port"]
  | maxBodyBytes => ["server", "max_body_bytes"]
  | shutdownTimeoutSecs => ["server", "shutdown_timeout_secs"]
  | demoEnabled => ["demo", "enabled"]
  | demoHost => ["demo", "host"]
  | demoPort => ["demo", "port"]
  | failpoints => ["failpoints"]
  | logFilter => ["telemetry", "log_filter"]
  | logFormat => ["telemetry", "log_format"]

/-- The settings in their order. -/
def all : List Setting :=
  [serverHost, serverPort, maxBodyBytes, shutdownTimeoutSecs, demoEnabled, demoHost, demoPort, failpoints, logFilter,
    logFormat]

theorem mem_all (x : Setting) : x ∈ all := by
  cases x <;> decide

/-- No setting has its place at or below that of another one. -/
theorem path_eq_append (x y : Setting) {rest : List String} (h : x.path = y.path ++ rest) : x = y ∧ rest = [] := by
  have hall : all.all (fun x => all.all fun y => !y.path.isPrefixOf x.path || x == y) = true := by decide +kernel
  have hapart := List.all_eq_true.1 (List.all_eq_true.1 hall x (mem_all x)) y (mem_all y)
  have hbelow : y.path.isPrefixOf x.path = true := List.isPrefixOf_iff_prefix.2 ⟨rest, h.symm⟩
  rw [hbelow, Bool.not_true, Bool.false_or, beq_iff_eq] at hapart
  subst hapart
  exact ⟨rfl, List.self_eq_append_right.1 h⟩

/-- What the values of a setting are. -/
def Value : Setting → Type
  | serverHost | demoHost | failpoints | logFilter => String
  | serverPort | maxBodyBytes | shutdownTimeoutSecs | demoPort => Nat
  | demoEnabled => Bool
  | logFormat => LogFormat

/-- The value of a setting. -/
def of : (x : Setting) → Settings → x.Value
  | serverHost, s => s.server.host
  | serverPort, s => s.server.port
  | maxBodyBytes, s => s.server.maxBodyBytes
  | shutdownTimeoutSecs, s => s.server.shutdownTimeoutSecs
  | demoEnabled, s => s.demo.enabled
  | demoHost, s => s.demo.host
  | demoPort, s => s.demo.port
  | failpoints, s => s.failpoints
  | logFilter, s => s.telemetry.logFilter
  | logFormat, s => s.telemetry.logFormat

/-- The value that a node stands for. -/
def convert : (x : Setting) → Node → Option x.Value
  | serverHost | demoHost | failpoints | logFilter => Node.text?
  | serverPort | demoPort => Node.port?
  | maxBodyBytes | shutdownTimeoutSecs => Node.word?
  | demoEnabled => Node.bool?
  | logFormat => Node.logFormat?

/-- The value that a setting has in a section that does not give it. -/
def fallback : (x : Setting) → x.Value
  | serverHost | demoHost => Settings.defaultHost
  | serverPort => ServerSettings.defaultPort
  | maxBodyBytes => ServerSettings.defaultMaxBodyBytes
  | shutdownTimeoutSecs => ServerSettings.defaultShutdownTimeoutSecs
  | demoEnabled => Settings.defaultTrue
  | demoPort => DemoSettings.defaultPort
  | failpoints => ""
  | logFilter => TelemetrySettings.defaultLogFilter
  | logFormat => LogFormat.default

/-- The value that what stands at a place gives. -/
def read (x : Setting) (n : Option Node) : Option x.Value := n.elim (some x.fallback) x.convert

/-- The defaults are said setting by setting and for whole sections, and both say the same. -/
theorem fallback_eq (x : Setting) : x.fallback = x.of Settings.default := by
  cases x <;> rfl

theorem read_none (x : Setting) : x.read none = some (x.of Settings.default) := congrArg some x.fallback_eq

end Setting

namespace Settings

open Node

variable {root n : Node} {s : Settings}

/-- A table is a section, whose settings are read under their names. -/
theorem read_table {α : Type} (fs : List (String × Node)) (name : String) (place : Nat) (read : Node → Option α)
    (default : α) : (table fs).read name place read default = ((table fs).at? [name]).elim (some default) read := by
  have hfield : (table fs).setting? name place = (table fs).field? name := rfl
  rw [Node.read, hfield, at?]
  cases (table fs).field? name <;> rfl

theorem server?_table {fs : List (String × Node)} {v : ServerSettings} : (table fs).server? = some v ↔
    ((table fs).at? ["host"]).elim (some Settings.defaultHost) text? = some v.host ∧
    ((table fs).at? ["port"]).elim (some ServerSettings.defaultPort) port? = some v.port ∧
    ((table fs).at? ["max_body_bytes"]).elim (some ServerSettings.defaultMaxBodyBytes) word? =
      some v.maxBodyBytes ∧
    ((table fs).at? ["shutdown_timeout_secs"]).elim (some ServerSettings.defaultShutdownTimeoutSecs) word? =
      some v.shutdownTimeoutSecs := by
  simp only [server?, read_table, Option.bind_eq_bind, Option.bind_eq_some_iff, Option.guard_eq_some']
  constructor
  · rintro ⟨-, -, host, hhost, port, hport, bytes, hbytes, secs, hsecs, h⟩
    obtain rfl := Option.some.inj h
    exact ⟨hhost, hport, hbytes, hsecs⟩
  · rintro ⟨hhost, hport, hbytes, hsecs⟩
    exact ⟨(), rfl, _, hhost, _, hport, _, hbytes, _, hsecs, rfl⟩

theorem demo?_table {fs : List (String × Node)} {v : DemoSettings} : (table fs).demo? = some v ↔
    ((table fs).at? ["enabled"]).elim (some Settings.defaultTrue) bool? = some v.enabled ∧
    ((table fs).at? ["host"]).elim (some Settings.defaultHost) text? = some v.host ∧
    ((table fs).at? ["port"]).elim (some DemoSettings.defaultPort) port? = some v.port := by
  simp only [demo?, read_table, Option.bind_eq_bind, Option.bind_eq_some_iff, Option.guard_eq_some']
  constructor
  · rintro ⟨-, -, enabled, henabled, host, hhost, port, hport, h⟩
    obtain rfl := Option.some.inj h
    exact ⟨henabled, hhost, hport⟩
  · rintro ⟨henabled, hhost, hport⟩
    exact ⟨(), rfl, _, henabled, _, hhost, _, hport, rfl⟩

theorem telemetry?_table {fs : List (String × Node)} {v : TelemetrySettings} : Node.telemetry? (table fs) = some v ↔
    ((table fs).at? ["log_filter"]).elim (some TelemetrySettings.defaultLogFilter) text? = some v.logFilter ∧
    ((table fs).at? ["log_format"]).elim (some LogFormat.default) logFormat? =
      some v.logFormat := by
  simp only [read_table, Node.telemetry?, Option.bind_eq_bind, Option.bind_eq_some_iff, Option.guard_eq_some']
  constructor
  · rintro ⟨-, -, filter, hfilter, format, hformat, h⟩
    obtain rfl := Option.some.inj h
    exact ⟨hfilter, hformat⟩
  · rintro ⟨hfilter, hformat⟩
    exact ⟨(), rfl, _, hfilter, _, hformat, rfl⟩

theorem settings?_table {fs : List (String × Node)} : (table fs).settings? = some s ↔
    ((table fs).at? ["server"]).elim (some ServerSettings.default) server? = some s.server ∧
    ((table fs).at? ["demo"]).elim (some DemoSettings.default) demo? = some s.demo ∧
    ((table fs).at? ["failpoints"]).elim (some "") text? = some s.failpoints ∧
    ((table fs).at? ["telemetry"]).elim (some TelemetrySettings.default) telemetry? = some s.telemetry := by
  simp only [settings?, read_table, Option.bind_eq_bind, Option.bind_eq_some_iff, Option.guard_eq_some']
  constructor
  · rintro ⟨-, -, server, hserver, demo, hdemo, failpoints, hfailpoints, telemetry, htelemetry, h⟩
    obtain rfl := Option.some.inj h
    exact ⟨hserver, hdemo, hfailpoints, htelemetry⟩
  · rintro ⟨hserver, hdemo, hfailpoints, htelemetry⟩
    exact ⟨(), rfl, _, hserver, _, hdemo, _, hfailpoints, _, htelemetry, rfl⟩

theorem at?_pair (k l : String) : root.at? [k, l] = (root.at? [k]).bind (at? [l]) := by
  rw [at?, at?]
  cases root.field? k <;> rfl

/-- The nodes that are given for a section are tables. -/
def SectionOpen (root : Node) (k : String) : Prop := ∀ m, root.at? [k] = some m → m.IsTable

theorem sectionOpen_of_open {k l : String} (h : Open [k, l] root) : SectionOpen root k := by
  intro m hm
  rw [at?] at hm
  cases hfield : root.field? k with
  | none => rw [hfield] at hm; cases hm
  | some m' =>
    rw [hfield] at hm
    obtain rfl := Option.some.inj hm
    exact (h.2 _ hfield).1

/-- A section that is not given is read like an empty table. -/
theorem exists_section {α : Type} {k : String} {read : Node → Option α} {default : α}
    (hempty : read (table []) = some default) (hopen : SectionOpen root k) :
    ∃ fs, (root.at? [k]).elim (some default) read = read (table fs) ∧
      ∀ l, root.at? [k, l] = (table fs).at? [l] := by
  cases hsection : root.at? [k] with
  | none =>
    refine ⟨[], hempty.symm, fun l => ?_⟩
    rw [at?_pair, hsection]
    rfl
  | some m =>
    obtain ⟨fs, rfl⟩ := hopen m hsection
    refine ⟨fs, rfl, fun l => ?_⟩
    rw [at?_pair, hsection]
    rfl

theorem server_iff {v : ServerSettings} (hopen : SectionOpen root "server") :
    (root.at? ["server"]).elim (some ServerSettings.default) server? = some v ↔
      Setting.serverHost.read (root.at? ["server", "host"]) = some v.host ∧
      Setting.serverPort.read (root.at? ["server", "port"]) = some v.port ∧
      Setting.maxBodyBytes.read (root.at? ["server", "max_body_bytes"]) = some v.maxBodyBytes ∧
      Setting.shutdownTimeoutSecs.read (root.at? ["server", "shutdown_timeout_secs"]) =
        some v.shutdownTimeoutSecs := by
  have hempty : server? (table []) = some ServerSettings.default := rfl
  obtain ⟨fs, hsection, hat⟩ := exists_section hempty hopen
  simp only [hsection, hat]
  exact server?_table

theorem demo_iff {v : DemoSettings} (hopen : SectionOpen root "demo") :
    (root.at? ["demo"]).elim (some DemoSettings.default) demo? = some v ↔
      Setting.demoEnabled.read (root.at? ["demo", "enabled"]) = some v.enabled ∧
      Setting.demoHost.read (root.at? ["demo", "host"]) = some v.host ∧
      Setting.demoPort.read (root.at? ["demo", "port"]) = some v.port := by
  have hempty : demo? (table []) = some DemoSettings.default := rfl
  obtain ⟨fs, hsection, hat⟩ := exists_section hempty hopen
  simp only [hsection, hat]
  exact demo?_table

theorem telemetry_iff {v : TelemetrySettings} (hopen : SectionOpen root "telemetry") :
    (root.at? ["telemetry"]).elim (some TelemetrySettings.default) telemetry? = some v ↔
      Setting.logFilter.read (root.at? ["telemetry", "log_filter"]) = some v.logFilter ∧
      Setting.logFormat.read (root.at? ["telemetry", "log_format"]) = some v.logFormat := by
  have hempty : Node.telemetry? (table []) = some TelemetrySettings.default := rfl
  obtain ⟨fs, hsection, hat⟩ := exists_section hempty hopen
  simp only [hsection, hat]
  exact telemetry?_table

/-- A setting whose section is a table has what its place gives. -/
theorem read_of_settings? (x : Setting) (hopen : Open x.path root) (h : root.settings? = some s) :
    x.read (root.at? x.path) = some (x.of s) := by
  obtain ⟨fs, rfl⟩ : root.IsTable := by cases x <;> exact hopen.1
  obtain ⟨hserver, hdemo, hfailpoints, htelemetry⟩ := settings?_table.1 h
  cases x with
  | serverHost => exact ((server_iff (sectionOpen_of_open hopen)).1 hserver).1
  | serverPort => exact ((server_iff (sectionOpen_of_open hopen)).1 hserver).2.1
  | maxBodyBytes => exact ((server_iff (sectionOpen_of_open hopen)).1 hserver).2.2.1
  | shutdownTimeoutSecs => exact ((server_iff (sectionOpen_of_open hopen)).1 hserver).2.2.2
  | demoEnabled => exact ((demo_iff (sectionOpen_of_open hopen)).1 hdemo).1
  | demoHost => exact ((demo_iff (sectionOpen_of_open hopen)).1 hdemo).2.1
  | demoPort => exact ((demo_iff (sectionOpen_of_open hopen)).1 hdemo).2.2
  | failpoints => exact hfailpoints
  | logFilter => exact ((telemetry_iff (sectionOpen_of_open hopen)).1 htelemetry).1
  | logFormat => exact ((telemetry_iff (sectionOpen_of_open hopen)).1 htelemetry).2

/-- A tree whose sections are tables is read if the places of all settings are. -/
theorem settings?_of_read (hopen : ∀ x : Setting, Open x.path root)
    (h : ∀ x : Setting, x.read (root.at? x.path) = some (x.of s)) : root.settings? = some s := by
  obtain ⟨fs, rfl⟩ := (hopen .failpoints).1
  refine settings?_table.2 ⟨?_, ?_, h .failpoints, ?_⟩
  · exact (server_iff (sectionOpen_of_open (hopen .serverHost))).2
      ⟨h .serverHost, h .serverPort, h .maxBodyBytes, h .shutdownTimeoutSecs⟩
  · exact (demo_iff (sectionOpen_of_open (hopen .demoHost))).2 ⟨h .demoEnabled, h .demoHost, h .demoPort⟩
  · exact (telemetry_iff (sectionOpen_of_open (hopen .logFilter))).2 ⟨h .logFilter, h .logFormat⟩

end Settings

end FaultInjection
