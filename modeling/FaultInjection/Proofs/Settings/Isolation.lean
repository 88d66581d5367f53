import FaultInjection.Proofs.Settings.Sources

/-!
# Isolation of settings

The value of a setting depends on its own sources only. If the environment gives a text for it, the text decides;
otherwise the file does, and without either the default holds. Two runs in which the deciding source is the same
load the same value, whatever else their files and environments say: `Setting.isolated`.

This takes tables for sections (`Setting.Regular`): a list in the place of a section, or a variable that stands for
an element of one, replaces all settings of the section. A file gives a setting twice if it spells its place in two
ways; otherwise the order of its entries has no part in what it gives, `given_of_perm`.
-/

namespace FaultInjection

open Settings Node

namespace Setting

/-- Sources that keep the section of a setting a table and that have at most one variable for the setting. The log
format can be written as a table too, so no variable may stand for a name below it. -/
structure Regular (x : Setting) (file : Option File) (environment : List (String × String)) : Prop where
  file_keeps : Layer.Keeps x.path (layerOf file)
  environment_keeps : Layer.Keeps x.path (environmentLayer environment)
  single : ∀ v ∈ environment, ∀ w ∈ environment,
    variablePath? v.1 = some x.steps → variablePath? w.1 = some x.steps → v = w
  format_whole : x = logFormat → ∀ v ∈ environment, ∀ name rest,
    variablePath? v.1 ≠ some (x.steps ++ .key name :: rest)

variable {x : Setting} {file : Option File} {environment : List (String × String)} {s : Settings} {text : String}

theorem given_eq_settle (hkeeps : Layer.Keeps x.path (layerOf file)) :
    x.given file = settle (Layer.reaching x.path (layerOf file)) none := by
  rw [given, at?_addLayer hkeeps, empty_at]

/-- What a file gives for a setting to which one of its entries leads at most is the same in any order of them. -/
theorem given_of_perm {layer : Layer} (hkeeps : Layer.Keeps x.path (layerOf file))
    (hperm : layer.Perm (layerOf file)) (honce : (Layer.reaching x.path layer).length ≤ 1) :
    x.given (some (.other layer)) = x.given file := by
  have hkeeps' : Layer.Keeps x.path (layerOf (some (.other layer))) := fun e he => hkeeps e (hperm.mem_iff.1 he)
  have hreaching : Layer.reaching x.path layer = Layer.reaching x.path (layerOf file) := by
    have hputs : (Layer.reaching x.path layer).Perm (Layer.reaching x.path (layerOf file)) := hperm.flatMap_right _
    rcases hlayer : Layer.reaching x.path layer with _ | ⟨put, _ | ⟨put', puts⟩⟩
    · exact (List.nil_perm.1 (hlayer ▸ hputs)).symm
    · exact (List.singleton_perm.1 (hlayer ▸ hputs))
    · rw [hlayer, List.length_cons, List.length_cons] at honce
      omega
  rw [given_eq_settle hkeeps, given_eq_settle hkeeps', ← hreaching]
  rfl

/-- Behind the defaults a file gives for a setting what it gives alone. -/
theorem read_file (hkeeps : Layer.Keeps x.path (layerOf file)) :
    x.read ((addLayer (addLayer (.table []) defaults) (layerOf file)).at? x.path) = x.read (x.given file) := by
  rw [given_eq_settle hkeeps, at?_addLayer hkeeps]
  obtain hnone | ⟨n, hn, hscalar, hdefault⟩ := defaults_at x
  · rw [hnone]
  · rw [hn, settle_on_scalar hscalar]
    cases settle (Layer.reaching x.path (layerOf file)) none with
    | some m => rfl
    | none => exact hdefault.trans x.read_none.symm

/-- A setting has the value of a text that the environment gives for it, or no variable reaches its place and it
has what the file gives. -/
theorem read_sources (hreg : x.Regular file environment) (hload : load? file environment = some s) :
    (∃ text, x.GivenText environment text ∧ x.convert (nodeOfText text) = some (x.of s)) ∨
      (Layer.reaching x.path (environmentLayer environment) = [] ∧ x.read (x.given file) = some (x.of s)) := by
  have hread := read_of_settings? x (tree_open hreg.file_keeps hreg.environment_keeps) (tree_of_load? hload)
  rw [tree, at?_addLayer hreg.environment_keeps] at hread
  obtain hnil | ⟨name, text, rest, n, hmem, hpath, hsettle⟩ := settle_environment x.path environment
    ((addLayer (addLayer (.table []) defaults) (layerOf file)).at? x.path)
  · rw [hnil, settle_nil, read_file hreg.file_keeps] at hread
    exact .inr ⟨hnil, hread⟩
  · rw [hsettle] at hread
    -- What the last variable puts below the place leaves a table or a list there.
    cases rest with
    | nil =>
      rw [putAt_of_scalar (isScalar_nodeOfText text)] at hread
      rw [List.append_nil] at hpath
      exact .inl ⟨text, ⟨name, hmem, hpath⟩, hread⟩
    | cons step rest =>
      exfalso
      cases step with
      | place i =>
        have hlist := (convert_list x _).symm.trans hread
        cases hlist
      | key k =>
        by_cases hx : x = logFormat
        · exact hreg.format_whole hx (name, text) hmem k rest hpath
        · have htable := (convert_table hx _).symm.trans hread
          cases htable

/-- A setting has the value of the text that the environment gives for it. -/
theorem convert_of_givenText (hreg : x.Regular file environment) (hload : load? file environment = some s)
    (htext : x.GivenText environment text) : x.convert (nodeOfText text) = some (x.of s) := by
  obtain ⟨name, hmem, hpath⟩ := htext
  obtain ⟨text', ⟨name', hmem', hpath'⟩, hconvert⟩ | ⟨hnil, -⟩ := read_sources hreg hload
  · cases hreg.single _ hmem _ hmem' hpath hpath'
    exact hconvert
  · exact absurd hnil (reaching_ne_nil hmem hpath)

/-- A setting for which the environment gives nothing has what the file gives, or its default. -/
theorem read_of_not_givenText (hreg : x.Regular file environment) (hload : load? file environment = some s)
    (hno : ∀ text, ¬ x.GivenText environment text) : x.read (x.given file) = some (x.of s) := by
  obtain ⟨text, htext, -⟩ | ⟨-, hread⟩ := read_sources hreg hload
  · exact absurd htext (hno text)
  · exact hread

variable {file' : Option File} {environment' : List (String × String)} {s' : Settings}

/-- Two loads agree on a setting if both environments give the same text for it, or if neither gives one and the
files give the same; if nothing gives it, it has its default. Nothing else in the sources has a part in it, and the
order of a file's entries has none unless two of them give the setting. -/
theorem isolated (x : Setting) (hload : load? file environment = some s) (hload' : load? file' environment' = some s')
    (hreg : x.Regular file environment) (hreg' : x.Regular file' environment') :
    (∀ text, x.GivenText environment text → x.GivenText environment' text → x.of s = x.of s') ∧
    ((∀ text, ¬ x.GivenText environment text) → (∀ text, ¬ x.GivenText environment' text) →
      x.given file = x.given file' → x.of s = x.of s') ∧
    ((∀ text, ¬ x.GivenText environment text) → x.given file = none → x.of s = x.of Settings.default) ∧
    ∀ layer : Layer, layer.Perm (layerOf file) → (Layer.reaching x.path layer).length ≤ 1 →
      x.given (some (.other layer)) = x.given file := by
  refine ⟨fun text htext htext' => ?_, fun hno hno' hgiven => ?_, fun hno hgiven => ?_,
    fun layer => given_of_perm hreg.file_keeps⟩
  · exact Option.some.inj
      ((convert_of_givenText hreg hload htext).symm.trans (convert_of_givenText hreg' hload' htext'))
  · have hread := read_of_not_givenText hreg hload hno
    rw [hgiven] at hread
    exact Option.some.inj (hread.symm.trans (read_of_not_givenText hreg' hload' hno'))
  · have hread := read_of_not_givenText hreg hload hno
    rw [hgiven, read_none] at hread
    exact Option.some.inj hread.symm

theorem isolated_demoPort : ∃ s s' : Settings,
    load? none [("FAILSWITCH_DEMO__PORT", "9"), ("FAILSWITCH_SERVER__HOST", "a")] = some s ∧
    load? (some (.toml "failpoints = 'a=off'\n[demo]\nport = 4\nhost = 'h'\n")) [("failswitch_demo__port", "9")] =
      some s' ∧ s.demo.port = s'.demo.port := by
  have hload : load? none [("FAILSWITCH_DEMO__PORT", "9"), ("FAILSWITCH_SERVER__HOST", "a")] =
      some ⟨⟨"a", 1234, 65536, 30⟩, ⟨true, "127.0.0.1", 9⟩, "", TelemetrySettings.default⟩ := by decide +kernel
  have hload' : load? (some (.toml "failpoints = 'a=off'\n[demo]\nport = 4\nhost = 'h'\n"))
      [("failswitch_demo__port", "9")] =
      some ⟨ServerSettings.default, ⟨true, "h", 9⟩, "a=off", TelemetrySettings.default⟩ := by decide +kernel
  refine ⟨_, _, hload, hload', (isolated demoPort hload hload' ⟨?_, ?_, ?_, ?_⟩ ⟨?_, ?_, ?_, ?_⟩).1 "9" ?_ ?_⟩
  · decide +kernel
  · decide +kernel
  · decide +kernel
  · intro h; cases h
  · decide +kernel
  · decide +kernel
  · decide +kernel
  · intro h; cases h
  · exact ⟨"FAILSWITCH_DEMO__PORT", List.mem_cons_self, by decide +kernel⟩
  · exact ⟨"failswitch_demo__port", List.mem_cons_self, by decide +kernel⟩

/-- Whether a layer puts a scalar in the place of a section. -/
def ScalarSection (layer : Layer) : Prop :=
  ∃ e ∈ layer, e.2.IsScalar ∧ ∃ k ∈ ["server", "demo", "telemetry"], pathOf e.1 = [.key k]

instance decidableScalarSection (layer : Layer) : Decidable (ScalarSection layer) :=
  inferInstanceAs
    (Decidable (∃ e ∈ layer, e.2.IsScalar ∧ ∃ k ∈ ["server", "demo", "telemetry"], pathOf e.1 = [.key k]))

/-- Without tables for sections, settings are not left alone although no section is made a scalar: a variable for
the first element of a section takes the port that the file gives, a variable for the port takes the first element
that the file gives for the section, and a variable below the log format gives the format. -/
theorem interference :
    (¬ ScalarSection (layerOf (some (.toml "[demo]\nport = 4\n"))) ∧
      ¬ ScalarSection (environmentLayer [("FAILSWITCH_DEMO[0]", "off")]) ∧
      variablePath? "FAILSWITCH_DEMO[0]" ≠ some demoPort.steps ∧
      (load? (some (.toml "[demo]\nport = 4\n")) []).map (·.demo.port) = some 4 ∧
      (load? (some (.toml "[demo]\nport = 4\n")) [("FAILSWITCH_DEMO[0]", "off")]).map (·.demo.port) = some 8080) ∧
    (¬ ScalarSection (layerOf (some (.toml "demo = [false]\n"))) ∧
      ¬ ScalarSection (environmentLayer [("FAILSWITCH_DEMO__PORT", "9")]) ∧
      variablePath? "FAILSWITCH_DEMO__PORT" ≠ some demoEnabled.steps ∧
      (load? (some (.toml "demo = [false]\n")) []).map (·.demo.enabled) = some false ∧
      (load? (some (.toml "demo = [false]\n")) [("FAILSWITCH_DEMO__PORT", "9")]).map (·.demo.enabled) = some true) ∧
    (¬ ScalarSection (environmentLayer [("FAILSWITCH_TELEMETRY__LOG_FORMAT__JSON", "1")]) ∧
      variablePath? "FAILSWITCH_TELEMETRY__LOG_FORMAT__JSON" ≠ some logFormat.steps ∧
      (load? none []).map (·.telemetry.logFormat) = some LogFormat.text ∧
      (load? none [("FAILSWITCH_TELEMETRY__LOG_FORMAT__JSON", "1")]).map (·.telemetry.logFormat) =
        some LogFormat.json) := by
  decide +kernel

end Setting

end FaultInjection
