import FaultInjection.Proofs.Settings.Reading

/-!
# What the sources give for a setting

A file gives for a setting what its own tree has at the setting's place (`given`). An environment gives a text for it
if a variable stands for its place (`GivenText`). The built-in defaults give nothing for it, or a scalar that is
converted to its default (`defaults_at`). Variables put what their texts stand for at a place or below it, and the
last of them settles what the environment leaves there: `settle_environment`.
-/

namespace FaultInjection

namespace Settings

open Node

/-- The layer of a file that may be missing or beyond reading. -/
def layerOf (file : Option File) : Layer := (file.bind File.layer?).getD []

/-- The path that a variable stands for, if it counts. -/
def variablePath? (name : String) : Option (List Step) := (entryOfVariable? name "").map fun e => pathOf e.1

end Settings

namespace Setting

open Settings Node

/-- The steps to a setting. -/
def steps (x : Setting) : List Step := x.path.map .key

theorem steps_eq_append (x y : Setting) {rest : List Step} (h : x.steps = y.steps ++ rest) : x = y ∧ rest = [] := by
  obtain ⟨p, q, hpath, hp, hq⟩ := List.map_eq_append_iff.1 h
  obtain rfl : p = y.path := (List.map_inj_right fun _ _ => Step.key.inj).1 hp
  obtain ⟨rfl, rfl⟩ := path_eq_append x y hpath
  exact ⟨rfl, hq.symm⟩

/-- What a file gives for a setting. -/
def given (x : Setting) (file : Option File) : Option Node := (addLayer (.table []) (layerOf file)).at? x.path

/-- An environment gives a text for a setting. -/
def GivenText (x : Setting) (environment : List (String × String)) (text : String) : Prop :=
  ∃ name, (name, text) ∈ environment ∧ variablePath? name = some x.steps

end Setting

namespace Settings

open Node Setting

variable {p : List String} {steps rest : List Step} {v w : Node} {x : Setting} {file : Option File}
  {environment : List (String × String)} {s : Settings}

theorem tree_of_load? (h : load? file environment = some s) : (tree (layerOf file) environment).settings? = some s := by
  cases file with
  | none => exact h
  | some f =>
    obtain ⟨layer, hlayer, hs⟩ := Option.bind_eq_some_iff.1 h
    rw [layerOf, Option.bind_some, hlayer]
    exact hs

theorem load?_none (environment : List (String × String)) : load? none environment = (tree [] environment).settings? :=
  rfl

theorem addLayer_nil (root : Node) : addLayer root [] = root := rfl

/-- A value without fields reaches the places on its way. -/
theorem mem_reaching_iff (hv : v.fields = []) :
    (rest, w) ∈ reaching p steps v ↔ steps = p.map .key ++ rest ∧ w = v := by
  induction p generalizing steps with
  | nil => simp [reaching, eq_comm]
  | cons k ks ih =>
    cases steps with
    | nil => simp [reaching, hv]
    | cons step steps =>
      cases step with
      | key name =>
        rw [reaching]
        by_cases hname : name = k
        · rw [if_pos hname, ih, hname, List.map_cons, List.cons_append, List.cons_inj_right]
        · rw [if_neg hname]
          simp [hname]
      | place i => simp [reaching]

theorem isScalar_nodeOfText (text : String) : (nodeOfText text).IsScalar := by
  unfold nodeOfText
  dsimp only
  repeat' split
  all_goals trivial

/-- What a variable puts depends on its text, and where it puts that on its name. -/
theorem entryOfVariable?_eq (name text : String) :
    entryOfVariable? name text = (entryOfVariable? name "").map fun e => (e.1, nodeOfText text) := by
  unfold entryOfVariable?
  dsimp only
  split <;> rfl

theorem exists_variable {e : String × Node} (he : e ∈ environmentLayer environment) : ∃ name text,
    (name, text) ∈ environment ∧ variablePath? name = some (pathOf e.1) ∧ e.2 = nodeOfText text := by
  obtain ⟨⟨name, text⟩, hmem, (hentry : entryOfVariable? name text = some e)⟩ := List.mem_filterMap.1 he
  rw [entryOfVariable?_eq] at hentry
  obtain ⟨e', he', rfl⟩ := Option.map_eq_some_iff.1 hentry
  exact ⟨name, text, hmem, Option.map_eq_some_iff.2 ⟨e', he', rfl⟩, rfl⟩

theorem mem_environment_reaching_iff : (rest, w) ∈ Layer.reaching p (environmentLayer environment) ↔
    ∃ name text, (name, text) ∈ environment ∧ variablePath? name = some (p.map .key ++ rest) ∧
      w = nodeOfText text := by
  rw [Layer.reaching, List.mem_flatMap]
  constructor
  · rintro ⟨e, he, hreach⟩
    obtain ⟨name, text, hmem, hpath, hvalue⟩ := exists_variable he
    rw [hvalue] at hreach
    obtain ⟨hsteps, rfl⟩ := (mem_reaching_iff (isScalar_nodeOfText text).fields).1 hreach
    exact ⟨name, text, hmem, hsteps ▸ hpath, rfl⟩
  · rintro ⟨name, text, hmem, hpath, rfl⟩
    obtain ⟨e, he, hsteps⟩ := Option.map_eq_some_iff.1 hpath
    refine ⟨(e.1, nodeOfText text), List.mem_filterMap.2 ⟨(name, text), hmem, ?_⟩, ?_⟩
    · change entryOfVariable? name text = some (e.1, nodeOfText text)
      rw [entryOfVariable?_eq, he]
      rfl
    · exact (mem_reaching_iff (isScalar_nodeOfText text).fields).2 ⟨hsteps, rfl⟩

/-- The environment leaves a place alone, or the last variable that reaches the place puts its value there. -/
theorem settle_environment (p : List String) (environment : List (String × String)) (old : Option Node) :
    Layer.reaching p (environmentLayer environment) = [] ∨ ∃ name text rest n, (name, text) ∈ environment ∧
      variablePath? name = some (p.map .key ++ rest) ∧
      settle (Layer.reaching p (environmentLayer environment)) old = some (putAt (nodeOfText text) rest n) := by
  obtain hnil | ⟨puts, ⟨rest, v⟩, hputs⟩ := List.eq_nil_or_concat (Layer.reaching p (environmentLayer environment))
  · exact .inl hnil
  · rw [List.concat_eq_append] at hputs
    have hlast : (rest, v) ∈ Layer.reaching p (environmentLayer environment) :=
      hputs ▸ List.mem_append_right puts List.mem_cons_self
    obtain ⟨name, text, hmem, hpath, rfl⟩ := mem_environment_reaching_iff.1 hlast
    rw [hputs, settle_concat]
    exact .inr ⟨name, text, rest, _, hmem, hpath, rfl⟩

theorem reaching_ne_nil {name text : String} (hmem : (name, text) ∈ environment)
    (hpath : variablePath? name = some x.steps) : Layer.reaching x.path (environmentLayer environment) ≠ [] := by
  have hreach : ([], nodeOfText text) ∈ Layer.reaching x.path (environmentLayer environment) :=
    mem_environment_reaching_iff.2 ⟨name, text, hmem, by rw [hpath, List.append_nil]; rfl, rfl⟩
  exact List.ne_nil_of_mem hreach

theorem paths_defaults : defaults.map (fun e => pathOf e.1) =
    [[.key "server", .key "host"], [.key "server", .key "port"], [.key "demo", .key "port"], [.key "failpoints"]] := by
  decide +kernel

theorem addLayer_defaults : addLayer (.table []) defaults =
    .table [("server", .table [("host", .text "127.0.0.1"), ("port", .integer 1234)]),
      ("demo", .table [("port", .integer 8080)]), ("failpoints", .text "")] := by
  have h := paths_defaults
  simp only [defaults, List.map_cons, List.map_nil, List.cons.injEq] at h
  obtain ⟨h₁, h₂, h₃, h₄, -⟩ := h
  simp only [addLayer, defaults, List.foldl_cons, List.foldl_nil, h₁, h₂, h₃, h₄]
  rfl

/-- The built-in defaults give for a setting nothing, or a scalar that is converted to the default. -/
theorem defaults_at (x : Setting) : (addLayer (.table []) defaults).at? x.path = none ∨
    ∃ n, (addLayer (.table []) defaults).at? x.path = some n ∧ n.IsScalar ∧
      x.convert n = some (x.of Settings.default) := by
  rw [addLayer_defaults]
  cases x with
  | serverHost | serverPort | demoPort | failpoints => exact .inr ⟨_, rfl, trivial, rfl⟩
  | _ => exact .inl rfl

end Settings

namespace Setting

open Settings Node

variable {x : Setting}

theorem empty_open (x : Setting) : Open x.path (.table []) := by
  cases x <;> exact ⟨⟨_, rfl⟩, fun m hm => by cases hm⟩

theorem empty_at (x : Setting) : (Node.table []).at? x.path = none := by
  cases x <;> rfl

theorem defaults_keep (x : Setting) : Layer.Keeps x.path defaults := by
  cases x <;> decide +kernel

/-- Sources that keep the section of a setting a table leave it one. -/
theorem tree_open {layer : Layer} {environment : List (String × String)} (hfile : Layer.Keeps x.path layer)
    (henvironment : Layer.Keeps x.path (environmentLayer environment)) : Open x.path (tree layer environment) :=
  open_addLayer henvironment (open_addLayer hfile (open_addLayer (defaults_keep x) (empty_open x)))

/-- The built-in defaults and the default values say the same. -/
theorem read_defaults (x : Setting) :
    x.read ((addLayer (.table []) defaults).at? x.path) = some (x.of Settings.default) := by
  obtain hnone | ⟨n, hn, -, hdefault⟩ := defaults_at x
  · rw [hnone, read_none]
  · rw [hn]
    exact hdefault

/-- No setting is a list. -/
theorem convert_list (x : Setting) (elements : List Node) : x.convert (.list elements) = none := by
  cases x <;> rfl

theorem convert_table (hx : x ≠ .logFormat) (fs : List (String × Node)) : x.convert (.table fs) = none := by
  cases x with
  | logFormat => exact absurd rfl hx
  | _ => rfl

end Setting

end FaultInjection
