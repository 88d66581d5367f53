import FaultInjection.Proofs.Decimal.Double
import FaultInjection.Proofs.Decimal.Positional
import FaultInjection.Proofs.Settings.Sources

/-!
# Settings that are texts

The text of a variable is taken for a truth value, an integer or a double if it reads as one, and a setting that is
a text gets the text of that scalar. `Arrival` says what becomes of a text: it arrives as it is unless it reads as a
scalar. With a single variable nothing else changes: `TextSetting.arrives`.
-/

namespace FaultInjection

open Decimal Decimal.Extended Settings Settings.Node

namespace Setting

variable {x : Setting} {name text : String}

/-- A single variable for one setting gives the value of its text to this one and leaves the others alone. -/
theorem load?_variable {s : Settings} (hname : variablePath? name = some x.steps)
    (hvalue : x.convert (nodeOfText text) = some (x.of s)) (hothers : ∀ y ≠ x, y.of s = y.of Settings.default) :
    load? none [(name, text)] = some s := by
  have hsingle {name' text' : String} {steps : List Step} (hmem : (name', text') ∈ [(name, text)])
      (hpath : variablePath? name' = some steps) : text' = text ∧ x.steps = steps := by
    obtain ⟨rfl, rfl⟩ := Prod.mk.inj (List.mem_singleton.1 hmem)
    exact ⟨rfl, Option.some.inj (hname.symm.trans hpath)⟩
  have hkeeps (y : Setting) : Layer.Keeps y.path (environmentLayer [(name, text)]) := by
    intro e he
    obtain ⟨name', text', hmem, hpath, -⟩ := exists_variable he
    rw [← (hsingle hmem hpath).2]
    exact keeps_map_key (fun rest hrest => (path_eq_append y x hrest).2) e.2
  rw [load?_none]
  refine settings?_of_read (fun y => tree_open (Layer.keeps_nil y.path) (hkeeps y)) fun y => ?_
  rw [tree, addLayer_nil, at?_addLayer (hkeeps y)]
  obtain hnil | ⟨name', text', rest, n, hmem, hpath, hsettle⟩ := settle_environment y.path [(name, text)]
    ((addLayer (.table []) defaults).at? y.path)
  · have hne : y ≠ x := by
      rintro rfl
      exact reaching_ne_nil List.mem_cons_self hname hnil
    rw [hnil, settle_nil, read_defaults, hothers y hne]
  · obtain ⟨rfl, hsteps⟩ := hsingle hmem hpath
    obtain ⟨rfl, rfl⟩ := steps_eq_append x y hsteps
    rw [hsettle, putAt_of_scalar (isScalar_nodeOfText text')]
    exact hvalue

end Setting

/-- A setting that is a text. -/
inductive TextSetting where
  | serverHost
  | demoHost
  | failpoints
  | logFilter
  deriving DecidableEq, Repr

namespace TextSetting

/-- It as one of all settings. -/
def setting : TextSetting → Setting
  | serverHost => .serverHost
  | demoHost => .demoHost
  | failpoints => .failpoints
  | logFilter => .logFilter

/-- The name of its variable. -/
def variableName : TextSetting → String
  | serverHost => "FAILSWITCH_SERVER__HOST"
  | demoHost => "FAILSWITCH_DEMO__HOST"
  | failpoints => "FAILSWITCH_FAILPOINTS"
  | logFilter => "FAILSWITCH_TELEMETRY__LOG_FILTER"

/-- The settings with another text for this one. -/
def put (w : String) (s : Settings) : TextSetting → Settings
  | serverHost => { s with server := { s.server with host := w } }
  | demoHost => { s with demo := { s.demo with host := w } }
  | failpoints => { s with failpoints := w }
  | logFilter => { s with telemetry := { s.telemetry with logFilter := w } }

end TextSetting

/-- What becomes of a text: the text of the truth value, of the integer or of the double that it reads as, or else the
text itself. -/
inductive Arrival (v : String) : String → Prop where
  | yes : lowered v.toList = "true".toList → Arrival v "true"
  | no : lowered v.toList = "false".toList → Arrival v "false"
  | integer {n : Int} {ds : List Char} : IntegerText v.toList n → Json.WholeText ds → digitsValue ds = n.natAbs →
      Arrival v (String.ofList (signText (decide (n < 0)) ++ ds))
  | double {x : Extended} {cs : List Char} : (∀ n, ¬ IntegerText v.toList n) → ExtendedText v.toList x →
      PositionalText x cs → Arrival v (String.ofList cs)
  | verbatim : lowered v.toList ≠ "true".toList → lowered v.toList ≠ "false".toList →
      (∀ n, ¬ IntegerText v.toList n) → (∀ x, ¬ ExtendedText v.toList x) → Arrival v v

/-- The word for a truth value is none for a double. -/
theorem not_extendedText {cs word : List Char} (h : lowered cs = word)
    (hword : word = "true".toList ∨ word = "false".toList) (x : Extended) : ¬ ExtendedText cs x := by
  have hsigned {sign name : List Char} {negative : Bool} (hsign : SignText sign negative)
      (hname : lowered name = "inf".toList ∨ lowered name = "infinity".toList ∨ lowered name = "nan".toList) :
      lowered (sign ++ name) ≠ word := by
    rw [lowered, List.map_append]
    change lowered sign ++ lowered name ≠ word
    cases hsign <;> rcases hname with hname | hname | hname <;> rcases hword with rfl | rfl <;> rw [hname] <;> decide
  rintro (⟨hdecimal, -⟩ | ⟨hsign, hname⟩ | ⟨hsign, hname⟩)
  · obtain ⟨c, hc, hdigit⟩ := hdecimal.exists_digit
    have hno : isDigit c = false :=
      not_isDigit_of_lowered h (by rcases hword with rfl | rfl <;> decide) c hc
    rw [hno] at hdigit
    cases hdigit
  · exact hsigned hsign (hname.imp_right .inl) h
  · exact hsigned hsign (.inr (.inr hname)) h

theorem not_integerText {cs word : List Char} (h : lowered cs = word)
    (hword : word = "true".toList ∨ word = "false".toList) (n : Int) : ¬ IntegerText cs n := by
  rintro ⟨hsign, hdigits, hne, -⟩
  next sign ds negative =>
  obtain ⟨c, ds, rfl⟩ := List.exists_cons_of_ne_nil hne
  have hno : isDigit c = false :=
    not_isDigit_of_lowered h (by rcases hword with rfl | rfl <;> decide) c (List.mem_append_right _ List.mem_cons_self)
  rw [hdigits c List.mem_cons_self] at hno
  cases hno

theorem exists_arrival (v : String) : ∃ w, Arrival v w := by
  by_cases htrue : lowered v.toList = "true".toList
  · exact ⟨_, .yes htrue⟩
  by_cases hfalse : lowered v.toList = "false".toList
  · exact ⟨_, .no hfalse⟩
  by_cases hinteger : ∃ n, IntegerText v.toList n
  · obtain ⟨n, hn⟩ := hinteger
    exact ⟨_, .integer hn (Json.wholeText_naturalDigits n.natAbs) (digitsValue_naturalDigits n.natAbs)⟩
  by_cases hdouble : ∃ x, ExtendedText v.toList x
  · obtain ⟨x, hx⟩ := hdouble
    have htext : PositionalText x x.display.toList := positionalText_iff.2 String.ofList_toList.symm
    exact ⟨_, .double (not_exists.1 hinteger) hx htext⟩
  · exact ⟨v, .verbatim htrue hfalse (not_exists.1 hinteger) (not_exists.1 hdouble)⟩

/-- The node of a text gives what becomes of the text. -/
theorem Arrival.text?_nodeOfText {v w : String} (h : Arrival v w) : (nodeOfText v).text? = some w := by
  have hsigned (hno : ∀ n, ¬ IntegerText v.toList n) : signed? v.toList = none :=
    Option.eq_none_iff_forall_ne_some.2 fun n hn => hno n (signed?_eq_some_iff.1 hn)
  rw [nodeOfText]
  cases h with
  | yes htrue => rw [if_pos htrue]; rfl
  | no hfalse => rw [if_neg (by rw [hfalse]; decide), if_pos hfalse]; rfl
  | integer hn hwhole hvalue =>
    rw [hwhole.eq_naturalDigits hvalue, if_neg fun h => not_integerText h (.inl rfl) _ hn,
      if_neg fun h => not_integerText h (.inr rfl) _ hn, signed?_eq_some_iff.2 hn]
    simp only [text?, signText, decide_eq_true_eq]
  | double hno hx htext =>
    rw [if_neg fun h => not_extendedText h (.inl rfl) _ hx, if_neg fun h => not_extendedText h (.inr rfl) _ hx,
      hsigned hno, Extended.read?_eq_some_iff.2 hx, ← positionalText_iff.1 htext]
    rfl
  | verbatim htrue hfalse hno hnox =>
    have hread : Extended.read? v.toList = none :=
      Option.eq_none_iff_forall_ne_some.2 fun x hx => hnox x (Extended.read?_eq_some_iff.1 hx)
    rw [if_neg htrue, if_neg hfalse, hsigned hno, hread]
    rfl

namespace TextSetting

theorem variablePath?_variableName (x : TextSetting) : variablePath? x.variableName = some x.setting.steps := by
  cases x <;> decide +kernel

theorem put_injective (x : TextSetting) {s : Settings} {w w' : String} (h : x.put w s = x.put w' s) : w = w' := by
  cases x with
  | serverHost => exact congrArg (·.server.host) h
  | demoHost => exact congrArg (·.demo.host) h
  | failpoints => exact congrArg (·.failpoints) h
  | logFilter => exact congrArg (·.telemetry.logFilter) h

/-- With one of these settings in the environment and nothing else, loading succeeds and only this setting can differ
from its default. It has what becomes of its text: the text as it is, unless that reads as a truth value, an integer
or a double. -/
theorem arrives (x : TextSetting) (v : String) : (∃ w, Arrival v w) ∧
    ∀ w, load? none [(x.variableName, v)] = some (x.put w Settings.default) ↔ Arrival v w := by
  have harrives {w : String} (h : Arrival v w) :
      load? none [(x.variableName, v)] = some (x.put w Settings.default) := by
    refine Setting.load?_variable x.variablePath?_variableName ?_ ?_
    · have htext := h.text?_nodeOfText
      cases x <;> exact htext
    · intro y hy
      cases x <;> cases y <;> first | rfl | exact absurd rfl hy
  obtain ⟨w', hw'⟩ := exists_arrival v
  refine ⟨⟨w', hw'⟩, fun w => ⟨fun h => ?_, harrives⟩⟩
  obtain rfl := x.put_injective (Option.some.inj (h.symm.trans (harrives hw')))
  exact hw'

/-- Hosts that read as a truth value, an integer or a double do not arrive as they are. -/
theorem not_verbatim :
    load? none [("FAILSWITCH_SERVER__HOST", "TRUE")] = some (serverHost.put "true" Settings.default) ∧
    load? none [("FAILSWITCH_SERVER__HOST", "007")] = some (serverHost.put "7" Settings.default) ∧
    load? none [("FAILSWITCH_SERVER__HOST", "1.10")] = some (serverHost.put "1.1" Settings.default) ∧
    ¬ ∀ (x : TextSetting) (v : String), load? none [(x.variableName, v)] = some (x.put v Settings.default) := by
  have hdouble : load? none [("FAILSWITCH_SERVER__HOST", "1.10")] = some (serverHost.put "1.1" Settings.default) := by
    decide +kernel
  refine ⟨by decide +kernel, by decide +kernel, hdouble, fun h => ?_⟩
  have hput := serverHost.put_injective (Option.some.inj (hdouble.symm.trans (h serverHost "1.10")))
  exact absurd hput (by decide)

end TextSetting

end FaultInjection
