import FaultInjection.Proofs.Json.Number
import FaultInjection.Proofs.Settings.Document
import FaultInjection.Proofs.Settings.Sources
import FaultInjection.Settings.Json

/-!
# JSON objects that declare settings

In an object that declares settings (`Declares`) every setting is given at most once, in its own type, and every other
member is idle: its name is no path, and its value a scalar. What stands at the place of a setting is then the same in
the object and in its tree, `Declares.at?_eq`, and is converted alike (`convert_of_written`).
-/

namespace FaultInjection

open Settings Node Json

namespace Setting

/-- What a JSON value has to be to declare a value of a setting. -/
def Written : (x : Setting) → Json.Value → x.Value → Prop
  | serverHost | demoHost | failpoints | logFilter => fun v (s : String) => v = .string s
  | serverPort | maxBodyBytes | shutdownTimeoutSecs | demoPort => fun v (n : Nat) =>
    n < Decimal.signedBound ∧ ∃ number, v = .number number ∧ number.integer? = some (n : Int)
  | demoEnabled => fun v (b : Bool) => v = .bool b
  | logFormat => fun v (f : LogFormat) => v = .string f.name

/-- The values that a setting can have: a port is not greater than the greatest one. -/
def InRange : (x : Setting) → x.Value → Prop
  | serverPort | demoPort => fun (n : Nat) => n ≤ maxPort
  | _ => fun _ => True

/-- The value that a JSON value gives directly. -/
def json? : (x : Setting) → Json.Value → Option x.Value
  | serverHost | demoHost | failpoints | logFilter => jsonText?
  | serverPort | demoPort => jsonNatural? maxPort
  | maxBodyBytes | shutdownTimeoutSecs => jsonNatural? maxWord
  | demoEnabled => jsonBool?
  | logFormat => jsonLogFormat?

variable {x : Setting} {v : Json.Value} {w : x.Value}

theorem node_of_integer {number : Number} {n : Nat} (h : number.integer? = some (n : Int)) :
    nodeOfJson (.number number) = .integer n := by
  rw [nodeOfJson, nodeOfNumber, h]

theorem word?_natural (n : Nat) : Node.word? (.integer n) = some n := by
  rw [Node.word?, if_pos (Int.natCast_nonneg n), Int.toNat_natCast]

theorem jsonNatural?_of_integer {number : Number} {n : Nat} (h : number.integer? = some (n : Int)) (most : Nat) :
    jsonNatural? most (.number number) = if n ≤ most then some n else none := by
  rw [jsonNatural?, h]

theorem port?_natural (n : Nat) : Node.port? (.integer n) = if n ≤ maxPort then some n else none := by
  rw [Node.port?, word?_natural, Option.filter_some]
  simp only [decide_eq_true_eq]

theorem le_maxWord {n : Nat} (h : n < Decimal.signedBound) : n ≤ maxWord :=
  (Nat.le_of_lt h).trans (by decide)

theorem named?_name (f : LogFormat) : LogFormat.named? f.name = some f := by
  cases f <;> decide

/-- A declared value is a scalar, which both routes read alike: as the value if that is in range, and as nothing
otherwise. -/
theorem convert_of_written (h : x.Written v w) : (nodeOfJson v).IsScalar ∧ x.json? v = x.convert (nodeOfJson v) ∧
    (x.InRange w → x.convert (nodeOfJson v) = some w) ∧ (¬ x.InRange w → x.convert (nodeOfJson v) = none) := by
  cases x with
  | serverHost | demoHost | failpoints | logFilter | demoEnabled =>
    obtain rfl := h
    exact ⟨trivial, rfl, fun _ => rfl, fun hrange => absurd trivial hrange⟩
  | logFormat =>
    obtain rfl := h
    exact ⟨trivial, rfl, fun _ => named?_name w, fun hrange => absurd trivial hrange⟩
  | serverPort | demoPort =>
    obtain ⟨-, number, rfl, hinteger⟩ := h
    rw [node_of_integer hinteger]
    have hport := port?_natural w
    exact ⟨trivial, (jsonNatural?_of_integer hinteger maxPort).trans hport.symm,
      fun hrange => hport.trans (if_pos hrange), fun hrange => hport.trans (if_neg hrange)⟩
  | maxBodyBytes | shutdownTimeoutSecs =>
    obtain ⟨hlt, number, rfl, hinteger⟩ := h
    rw [node_of_integer hinteger]
    have hword := word?_natural w
    exact ⟨trivial, ((jsonNatural?_of_integer hinteger maxWord).trans (if_pos (le_maxWord hlt))).trans hword.symm,
      fun _ => hword, fun hrange => absurd trivial hrange⟩

/-- The default settings, with the declared values in their places. -/
def overriding (declared : (x : Setting) → Option x.Value) : Settings where
  server := {
    host := (declared serverHost).getD ServerSettings.default.host
    port := (declared serverPort).getD ServerSettings.default.port
    maxBodyBytes := (declared maxBodyBytes).getD ServerSettings.default.maxBodyBytes
    shutdownTimeoutSecs := (declared shutdownTimeoutSecs).getD ServerSettings.default.shutdownTimeoutSecs }
  demo := {
    enabled := (declared demoEnabled).getD DemoSettings.default.enabled
    host := (declared demoHost).getD DemoSettings.default.host
    port := (declared demoPort).getD DemoSettings.default.port }
  failpoints := (declared failpoints).getD Settings.default.failpoints
  telemetry := {
    logFilter := (declared logFilter).getD TelemetrySettings.default.logFilter
    logFormat := (declared logFormat).getD TelemetrySettings.default.logFormat }

theorem of_overriding (x : Setting) (declared : (x : Setting) → Option x.Value) :
    x.of (overriding declared) = (declared x).getD (x.of Settings.default) := by
  cases x <;> rfl

end Setting

namespace Settings

/-! ## Declarations -/

/-- The sections with the names of their settings. -/
def sections : List (String × List String) :=
  [("server", ["host", "port", "max_body_bytes", "shutdown_timeout_secs"]), ("demo", ["enabled", "host", "port"]),
    ("telemetry", ["log_filter", "log_format"])]

/-- The names at the root: those of the sections, and that of the setting in none. -/
def rootNames : List String := ["server", "demo", "failpoints", "telemetry"]

/-- A value of a member that declares nothing: a text, a truth value, or an integer of at most sixty-four
bits with or without a sign. -/
inductive IdleValue : Json.Value → Prop where
  | text (s : String) : IdleValue (.string s)
  | bool (b : Bool) : IdleValue (.bool b)
  | integer {number : Number} : number.IsWhole → IdleValue (.number number)

/-- The known names among the members are given at most once, and the other members have plain names and idle
values. -/
structure Sparse (names : List String) (ms : List (Option String × Json.Value)) : Prop where
  once : ∀ name ∈ names, Once ms name
  others : ∀ m ∈ ms, (∃ name ∈ names, m.1 = some name) ∨ ∃ name, m.1 = some name ∧ PlainName name ∧ IdleValue m.2

/-- The members of an object declare settings: sections are objects, and each setting has a value of its own type
or is not given. -/
structure Declares (ms : List (Option String × Json.Value)) (declared : (x : Setting) → Option x.Value) : Prop where
  root : Sparse rootNames ms
  sections : ∀ s ∈ sections, ∀ v, (some s.1, v) ∈ ms → ∃ fs, v = .object fs ∧ Sparse s.2 fs
  settings : ∀ x : Setting, Option.Rel x.Written ((Json.Value.object ms).at? x.path) (declared x)

variable {ms : List (Option String × Json.Value)} {declared : (x : Setting) → Option x.Value}

theorem path_cases (x : Setting) : x = .failpoints ∨ ∃ s ∈ sections, ∃ l ∈ s.2, x.path = [s.1, l] := by
  cases x <;> decide

theorem exists_setting : ∀ s ∈ sections, s.1 ∈ rootNames ∧ ∀ l ∈ s.2, ∃ x ∈ Setting.all, x.path = [s.1, l] := by
  decide

theorem Declares.section_open (h : Declares ms declared) {s : String × List String} (hs : s ∈ Settings.sections)
    {n : Node} (hn : (s.1, n) ∈ layerOfJson ms) : n.IsTable := by
  obtain ⟨v, hv, rfl⟩ := mem_layerOfJson hn
  obtain ⟨fs, rfl, -⟩ := h.sections s hs v hv
  exact ⟨_, rfl⟩

theorem Sparse.plain {names : List String} (hnames : ∀ name ∈ names, PlainName name) (h : Sparse names ms) :
    ∀ e ∈ layerOfJson ms, PlainName e.1 := by
  intro e he
  obtain ⟨v, hv, -⟩ := mem_layerOfJson he
  rcases h.others _ hv with ⟨name, hname, heq⟩ | ⟨name, heq, hplain, -⟩
  · obtain rfl := Option.some.inj heq
    exact hnames e.1 hname
  · obtain rfl := Option.some.inj heq
    exact hplain

theorem plain_rootNames : ∀ name ∈ rootNames, PlainName name := by decide

theorem Declares.keeps (h : Declares ms declared) (x : Setting) : Layer.Keeps x.path (layerOfJson ms) := by
  intro e he
  rw [pathOf_of_plain (h.root.plain plain_rootNames e he)]
  obtain rfl | ⟨s, hs, l, -, hpath⟩ := path_cases x
  · exact fun _ => trivial
  · rw [hpath]
    exact fun hname => ⟨h.section_open hs (hname ▸ he), fun _ _ _ => trivial⟩

theorem Declares.open_object (h : Declares ms declared) (x : Setting) : Open x.path (table (layerOfJson ms)) := by
  obtain rfl | ⟨s, hs, l, -, hpath⟩ := path_cases x
  · exact ⟨⟨_, rfl⟩, fun _ _ => trivial⟩
  · rw [hpath]
    exact ⟨⟨_, rfl⟩, fun m hm => ⟨h.section_open hs (mem_of_lookup hm), fun _ _ => trivial⟩⟩

theorem at?_object {k : String} (h : Once ms k) (ks : List String) : (table (layerOfJson ms)).at? (k :: ks) =
    (ms.lookup (some k)).bind fun v => (nodeOfJson v).at? ks := by
  rw [Node.at?, field?, fields, lookup_layerOfJson h, Option.bind_map]
  rfl

/-- What stands at the place of a setting is what the object has there. -/
theorem Declares.at?_eq (h : Declares ms declared) (x : Setting) :
    (table (layerOfJson ms)).at? x.path = ((Json.Value.object ms).at? x.path).map nodeOfJson := by
  obtain rfl | ⟨s, hs, l, hl, hpath⟩ := path_cases x
  · rw [Setting.path, at?_object (h.root.once _ (by decide)), Json.Value.at?]
    cases ms.lookup (some "failpoints") <;> rfl
  · rw [hpath, at?_object (h.root.once _ (exists_setting s hs).1), Json.Value.at?]
    cases hsection : ms.lookup (some s.1) with
    | none => rfl
    | some v =>
      obtain ⟨fs, rfl, hfs⟩ := h.sections s hs v (mem_of_lookup hsection)
      rw [Option.bind_some, Option.bind_some, Json.Value.at?]
      refine (at?_object (hfs.once l hl) []).trans ?_
      cases fs.lookup (some l) <;> rfl

/-- A setting is given with a value of its type, or is neither given nor declared. -/
theorem Declares.cases (h : Declares ms declared) (x : Setting) :
    ((Json.Value.object ms).at? x.path = none ∧ declared x = none) ∨
      ∃ v w, (Json.Value.object ms).at? x.path = some v ∧ declared x = some w ∧ x.Written v w := by
  have hrel := h.settings x
  generalize (Json.Value.object ms).at? x.path = v at hrel ⊢
  generalize declared x = w at hrel ⊢
  cases hrel with
  | some hwritten => exact .inr ⟨_, _, rfl, rfl, hwritten⟩
  | none => exact .inl ⟨rfl, rfl⟩

theorem Declares.exists_written (h : Declares ms declared) {x : Setting} {v : Json.Value}
    (hv : (Json.Value.object ms).at? x.path = some v) : ∃ w, x.Written v w := by
  obtain ⟨hnone, -⟩ | ⟨v', w, hsome, -, hwritten⟩ := h.cases x
  · exact absurd (hnone.symm.trans hv) (Option.some_ne_none v).symm
  · obtain rfl := Option.some.inj (hsome.symm.trans hv)
    exact ⟨w, hwritten⟩

theorem at?_root {k : String} {v : Json.Value} (hv : ms.lookup (some k) = some v) :
    (Json.Value.object ms).at? [k] = some v := by
  rw [Json.Value.at?, hv]
  rfl

theorem at?_section {k l : String} {fs : List (Option String × Json.Value)} {v : Json.Value}
    (hsection : ms.lookup (some k) = some (.object fs)) (hv : fs.lookup (some l) = some v) :
    (Json.Value.object ms).at? [k, l] = some v := by
  rw [Json.Value.at?, hsection, Option.bind_some, Json.Value.at?, hv]
  rfl

/-! ## The file is readable -/

theorem membersReadable_iff {depth : Nat} : Json.Value.membersReadable depth ms = true ↔
    ∀ m ∈ ms, m.1.isSome = true ∧ Json.Value.isReadable depth m.2 = true := by
  induction ms with
  | nil => simp [Json.Value.membersReadable]
  | cons m ms ih =>
    obtain ⟨key, v⟩ := m
    rw [Json.Value.membersReadable, Bool.and_eq_true, Bool.and_eq_true, ih, List.forall_mem_cons]

theorem isReadable_of_isWhole {number : Number} (h : number.IsWhole) (depth : Nat) :
    Json.Value.isReadable depth (.number number) = true := by
  rw [Json.Value.isReadable]
  exact h.isSome_double?

theorem IdleValue.isReadable {v : Json.Value} (h : IdleValue v) (depth : Nat) :
    Json.Value.isReadable depth v = true := by
  cases h with
  | text s => cases depth <;> rfl
  | bool b => cases depth <;> rfl
  | integer hn => exact isReadable_of_isWhole hn depth

theorem isReadable_of_written {x : Setting} {v : Json.Value} {w : x.Value} (h : x.Written v w) (depth : Nat) :
    Json.Value.isReadable depth v = true := by
  cases x with
  | serverPort | maxBodyBytes | shutdownTimeoutSecs | demoPort =>
    obtain ⟨-, number, rfl, hinteger⟩ := h
    exact isReadable_of_isWhole (Number.isWhole_of_integer? hinteger) depth
  | _ =>
    obtain rfl := h
    cases depth <;> rfl

theorem Sparse.membersReadable {names : List String} {depth : Nat} (h : Sparse names ms)
    (hknown : ∀ name ∈ names, ∀ v, ms.lookup (some name) = some v → Json.Value.isReadable depth v = true) :
    Json.Value.membersReadable depth ms = true := by
  refine membersReadable_iff.2 fun m hm => ?_
  obtain ⟨key, v⟩ := m
  rcases h.others _ hm with ⟨name, hname, rfl⟩ | ⟨name, rfl, -, hidle⟩
  · exact ⟨rfl, hknown name hname v (lookup_of_once (h.once name hname) hm)⟩
  · exact ⟨rfl, hidle.isReadable depth⟩

theorem rootNames_cases : ∀ k ∈ rootNames, [k] = Setting.failpoints.path ∨ ∃ s ∈ sections, s.1 = k := by
  decide

theorem Declares.isReadable (h : Declares ms declared) :
    (Json.Value.object ms).isReadable Json.Value.maxDepth = true := by
  rw [Json.Value.maxDepth, Json.Value.isReadable]
  refine h.root.membersReadable fun k hk v hv => ?_
  rcases rootNames_cases k hk with hpath | ⟨s, hs, rfl⟩
  · obtain ⟨w, hwritten⟩ := h.exists_written (hpath ▸ at?_root hv)
    exact isReadable_of_written hwritten _
  · obtain ⟨fs, rfl, hfs⟩ := h.sections s hs v (mem_of_lookup hv)
    rw [Json.Value.isReadable]
    refine hfs.membersReadable fun l hl v hv' => ?_
    obtain ⟨x, -, hpath⟩ := (exists_setting s hs).2 l hl
    obtain ⟨w, hwritten⟩ := h.exists_written (hpath ▸ at?_section hv hv')
    exact isReadable_of_written hwritten _

end Settings

end FaultInjection
