import FaultInjection.Settings.Node

/-!
# What reaches a place of the tree

A place is a row of names from the root down (`Node.at?`). Of what a layer puts into the tree, only some values
reach a place: those that are put at it or below it, alone or as fields of tables that are put above it
(`reaching`). While the layer keeps the nodes above the place tables (`Keeps`), the node at the place is settled
by these values and the node that was there (`at?_addLayer`), and the nodes above it stay tables
(`open_addLayer`).
-/

namespace FaultInjection.Settings

namespace Node

/-- The node at a place. -/
def at? : List String → Node → Option Node
  | [], n => some n
  | k :: ks, n => (n.field? k).bind (at? ks)

/-- A node that is a table. -/
def IsTable (n : Node) : Prop := ∃ fs, n = table fs

instance decidableIsTable (n : Node) : Decidable n.IsTable :=
  match n with
  | table fs => isTrue ⟨fs, rfl⟩
  | null | bool _ | integer _ | float _ | text _ | list _ => isFalse (by rintro ⟨_, h⟩; cases h)

/-- A node that is neither a list nor a table. -/
def IsScalar : Node → Prop
  | list _ | table _ => False
  | _ => True

instance decidableIsScalar (n : Node) : Decidable n.IsScalar :=
  match n with
  | list _ | table _ => isFalse id
  | null | bool _ | integer _ | float _ | text _ => isTrue trivial

theorem IsScalar.fields {n : Node} (h : n.IsScalar) : n.fields = [] := by
  cases n with
  | table _ => exact h.elim
  | _ => rfl

theorem IsScalar.elements {n : Node} (h : n.IsScalar) : n.elements = [] := by
  cases n with
  | list _ => exact h.elim
  | _ => rfl

theorem at?_of_fields_eq_nil {n : Node} (h : n.fields = []) (k : String) (ks : List String) :
    n.at? (k :: ks) = none := by
  rw [at?, field?, h]
  rfl

theorem lookup_cons (name k : String) (v : Node) (fs : List (String × Node)) :
    ((name, v) :: fs).lookup k = if name = k then some v else fs.lookup k := by
  rw [List.lookup_cons]
  by_cases h : name = k
  · rw [if_pos h, h, beq_self_eq_true]
  · rw [if_neg h, beq_false_of_ne (Ne.symm h)]

theorem lookup_setField (fs : List (String × Node)) (name k : String) (v : Node) :
    (setField name v fs).lookup k = if name = k then some v else fs.lookup k := by
  induction fs with
  | nil => rw [setField, lookup_cons]
  | cons f fs ih =>
    obtain ⟨l, w⟩ := f
    by_cases hl : l = name
    · rw [setField, if_pos (beq_iff_eq.2 hl), lookup_cons, lookup_cons, hl]
      split <;> rfl
    · rw [setField, if_neg (mt beq_iff_eq.1 hl), lookup_cons, lookup_cons, ih]
      by_cases hk : l = k
      · rw [if_pos hk, if_pos hk, if_neg fun h => hl (hk.trans h.symm)]
      · rw [if_neg hk, if_neg hk]

/-- A value that is put under a name is found under it, and what has another name stays. -/
theorem field?_putAt_key (v : Node) (steps : List Step) (n : Node) (name k : String) :
    (putAt v (.key name :: steps) n).field? k =
      if name = k then some (putAt v steps ((n.field? k).getD null)) else n.field? k := by
  rw [putAt, field?, fields, lookup_setField]
  by_cases h : name = k
  · rw [if_pos h, if_pos h, h]
  · rw [if_neg h, if_neg h, field?]

/-- Put values at the ends of their steps, one after another. -/
def putAll (puts : List (List Step × Node)) (n : Node) : Node := puts.foldl (fun n put => putAt put.2 put.1 n) n

theorem table_mergeFields (fs old : List (String × Node)) :
    table (mergeFields fs old) = putAll (fs.map fun f => ([.key f.1], f.2)) (table old) := by
  induction fs generalizing old with
  | nil => rw [mergeFields]; rfl
  | cons f fs ih =>
    obtain ⟨name, v⟩ := f
    rw [mergeFields, ih]
    rfl

/-- A table is merged by putting its fields under their names. -/
theorem putAt_table (fs : List (String × Node)) (n : Node) :
    putAt (table fs) [] n = putAll (fs.map fun f => ([.key f.1], f.2)) (table n.fields) := by
  rw [putAt, merge, table_mergeFields]

/-- A scalar takes the place of what was there. -/
theorem putAt_of_scalar {v : Node} (hv : v.IsScalar) (n : Node) : putAt v [] n = v := by
  cases v with
  | table _ => exact hv.elim
  | _ => rfl

/-- A scalar leaves nothing of itself to what is put on it. -/
theorem putAt_on_scalar {n : Node} (hn : n.IsScalar) (v : Node) (steps : List Step) :
    putAt v steps n = putAt v steps null := by
  cases steps with
  | nil =>
    cases v with
    | table fs => rw [putAt_table, putAt_table, hn.fields]; rfl
    | _ => rfl
  | cons step steps =>
    cases step with
    | key k => rw [putAt, putAt, field?, field?, hn.fields]; rfl
    | place i => rw [putAt, putAt, hn.elements]; rfl

end Node

open Node

/-- What a value put at the end of some steps puts at a place or below it, with the steps that remain from the
place. -/
def reaching : List String → List Step → Node → List (List Step × Node)
  | [], steps, v => [(steps, v)]
  | k :: ks, [], v => v.fields.flatMap fun f => if f.1 = k then reaching ks [] f.2 else []
  | k :: ks, .key name :: steps, v => if name = k then reaching ks steps v else []
  | _ :: _, .place _ :: _, _ => []

/-- Whether a value put at the end of some steps leaves tables above a place: no other value is put there,
neither is an element of a list. -/
def Keeps : List String → List Step → Node → Prop
  | [], _, _ => True
  | k :: ks, [], v => v.IsTable ∧ ∀ f ∈ v.fields, f.1 = k → Keeps ks [] f.2
  | k :: ks, .key name :: steps, v => name = k → Keeps ks steps v
  | _ :: _, .place _ :: _, _ => False

/-- A value that is put at a place is put above no place that does not lie below that one. -/
theorem keeps_map_key {p q : List String} (h : ∀ rest, p = q ++ rest → rest = []) (v : Node) :
    Keeps p (q.map .key) v := by
  induction p generalizing q with
  | nil => trivial
  | cons k ks ih =>
    cases q with
    | nil => cases h (k :: ks) rfl
    | cons l ls =>
      rintro rfl
      exact ih fun rest hrest => h rest (congrArg (l :: ·) hrest)

instance decidableKeeps : (p : List String) → (steps : List Step) → (v : Node) → Decidable (Keeps p steps v)
  | [], _, _ => isTrue trivial
  | k :: ks, [], v =>
    have : ∀ w, Decidable (Keeps ks [] w) := decidableKeeps ks []
    inferInstanceAs (Decidable (v.IsTable ∧ ∀ f ∈ v.fields, f.1 = k → Keeps ks [] f.2))
  | k :: ks, .key name :: steps, v =>
    have : Decidable (Keeps ks steps v) := decidableKeeps ks steps v
    inferInstanceAs (Decidable (name = k → Keeps ks steps v))
  | _ :: _, .place _ :: _, _ => isFalse id

/-- The node at a place after values have been put at it or below it. -/
def settle (puts : List (List Step × Node)) (old : Option Node) : Option Node :=
  puts.foldl (fun n put => some (putAt put.2 put.1 (n.getD null))) old

@[simp] theorem settle_nil (old : Option Node) : settle [] old = old := rfl

theorem settle_append (ps qs : List (List Step × Node)) (old : Option Node) :
    settle (ps ++ qs) old = settle qs (settle ps old) := List.foldl_append

theorem settle_concat (ps : List (List Step × Node)) (steps : List Step) (v : Node) (old : Option Node) :
    settle (ps ++ [(steps, v)]) old = some (putAt v steps ((settle ps old).getD null)) := by
  rw [settle_append]
  rfl

/-- Values that are put on a scalar leave it only if there are none. -/
theorem settle_on_scalar {n : Node} (hn : n.IsScalar) (puts : List (List Step × Node)) :
    settle puts (some n) = (settle puts none).or (some n) := by
  cases puts with
  | nil => rfl
  | cons put puts =>
    have hfirst : putAt put.2 put.1 n = putAt put.2 put.1 null := putAt_on_scalar hn _ _
    have hsome (m : Node) : ∃ m', settle puts (some m) = some m' := by
      induction puts generalizing m with
      | nil => exact ⟨m, rfl⟩
      | cons put puts ih => exact ih _
    obtain ⟨m, hm⟩ := hsome (putAt put.2 put.1 null)
    have hafter (o : Option Node) : settle (put :: puts) o = settle puts (some (putAt put.2 put.1 (o.getD null))) :=
      rfl
    rw [hafter, hafter, Option.getD_some, Option.getD_none, hfirst, hm]
    rfl

variable {p : List String} {steps : List Step} {v n : Node}

/-- The node at a place depends on the node above it only through what stands at the place. -/
theorem settle_at?_getD (p : List String) (steps : List Step) (v : Node) (o : Option Node) :
    settle (reaching p steps v) ((o.getD null).at? p) = settle (reaching p steps v) (o.bind (at? p)) := by
  cases o with
  | some n => rfl
  | none =>
    cases p with
    | nil => rfl
    | cons k ks => rw [Option.getD_none, at?_of_fields_eq_nil rfl]; rfl

theorem at?_putAt_key {name k : String} {ks : List String}
    (h : name = k → ∀ n, (putAt v steps n).at? ks = settle (reaching ks steps v) (n.at? ks)) :
    (putAt v (.key name :: steps) n).at? (k :: ks) =
      settle (reaching (k :: ks) (.key name :: steps) v) (n.at? (k :: ks)) := by
  rw [at?, field?_putAt_key, reaching]
  by_cases hname : name = k
  · rw [if_pos hname, if_pos hname, Option.bind_some, h hname, settle_at?_getD]
    rfl
  · rw [if_neg hname, if_neg hname]
    rfl

theorem at?_putAll {puts : List (List Step × Node)}
    (h : ∀ put ∈ puts, ∀ n, (putAt put.2 put.1 n).at? p = settle (reaching p put.1 put.2) (n.at? p)) :
    (putAll puts n).at? p = settle (puts.flatMap fun put => reaching p put.1 put.2) (n.at? p) := by
  induction puts generalizing n with
  | nil => rfl
  | cons put puts ih =>
    have hrest := ih (n := putAt put.2 put.1 n) fun put' hput' => h put' (List.mem_cons_of_mem put hput')
    rw [List.flatMap_cons, settle_append, ← h put List.mem_cons_self n, ← hrest]
    rfl

/-- The node at a place is settled by the values that reach the place. -/
theorem at?_putAt (hkeeps : Keeps p steps v) : (putAt v steps n).at? p = settle (reaching p steps v) (n.at? p) := by
  induction p generalizing steps v n with
  | nil => rfl
  | cons k ks ih =>
    -- A value goes one name down with the place, or its fields do one after another.
    cases steps with
    | cons step steps =>
      cases step with
      | key name => exact at?_putAt_key fun hname n => ih (hkeeps hname)
      | place i => exact hkeeps.elim
    | nil =>
      obtain ⟨⟨fs, rfl⟩, hfs⟩ := hkeeps
      rw [putAt_table, at?_putAll, List.flatMap_map]
      · rfl
      · intro put hput n
        obtain ⟨f, hf, rfl⟩ := List.mem_map.1 hput
        exact at?_putAt_key fun hname n => ih (hfs f hf hname)

/-- Whether the nodes above a place are tables. -/
def Open : List String → Node → Prop
  | [], _ => True
  | k :: ks, n => n.IsTable ∧ ∀ m, n.field? k = some m → Open ks m

/-- Whether the nodes above a place are tables, apart from the root. -/
def OpenFields (p : List String) (n : Node) : Prop := ∀ k ks, p = k :: ks → ∀ m, n.field? k = some m → Open ks m

theorem Open.fields (h : Open p n) : OpenFields p n := by
  rintro k ks rfl
  exact h.2

theorem openFields_getD {ks : List String} {o : Option Node} (h : ∀ m, o = some m → Open ks m) :
    OpenFields ks (o.getD null) := by
  cases o with
  | none =>
    rintro k ks rfl m hm
    cases hm
  | some m => exact (h m rfl).fields

theorem open_putAt_key {name k : String} {ks : List String} (hold : OpenFields (k :: ks) n)
    (h : name = k → ∀ n, OpenFields ks n → Open ks (putAt v steps n)) :
    Open (k :: ks) (putAt v (.key name :: steps) n) := by
  refine ⟨⟨_, rfl⟩, fun m hm => ?_⟩
  rw [field?_putAt_key] at hm
  split at hm
  · next hname =>
    obtain rfl := Option.some.inj hm
    exact h hname _ (openFields_getD (hold k ks rfl))
  · exact hold k ks rfl m hm

/-- A value that keeps the nodes above a place tables makes a table of what it is put on. -/
theorem open_putAt (hkeeps : Keeps p steps v) (hold : OpenFields p n) : Open p (putAt v steps n) := by
  induction p generalizing steps v n with
  | nil => trivial
  | cons k ks ih =>
    cases steps with
    | cons step steps =>
      cases step with
      | key name => exact open_putAt_key hold fun hname n hn => ih (hkeeps hname) hn
      | place i => exact hkeeps.elim
    | nil =>
      obtain ⟨⟨fs, rfl⟩, hfs⟩ := hkeeps
      have htable : Open (k :: ks) (table n.fields) := ⟨⟨_, rfl⟩, hold k ks rfl⟩
      rw [putAt_table]
      refine List.foldlRecOn _ _ htable fun m hm put hput => ?_
      obtain ⟨f, hf, rfl⟩ := List.mem_map.1 hput
      exact open_putAt_key hm.fields fun hname n hn => ih (hfs f hf hname) hn

/-- What a layer puts at a place or below it. -/
def Layer.reaching (p : List String) (layer : Layer) : List (List Step × Node) :=
  layer.flatMap fun e => Settings.reaching p (pathOf e.1) e.2

/-- Whether a layer leaves tables above a place. -/
def Layer.Keeps (p : List String) (layer : Layer) : Prop := ∀ e ∈ layer, Settings.Keeps p (pathOf e.1) e.2

instance decidableLayerKeeps (p : List String) (layer : Layer) : Decidable (layer.Keeps p) :=
  inferInstanceAs (Decidable (∀ e ∈ layer, Settings.Keeps p (pathOf e.1) e.2))

theorem Layer.keeps_nil (p : List String) : Layer.Keeps p [] := fun _ he => by cases he

theorem addLayer_eq (n : Node) (layer : Layer) :
    addLayer n layer = putAll (layer.map fun e => (pathOf e.1, e.2)) n := by
  rw [putAll, List.foldl_map]
  rfl

theorem at?_addLayer {layer : Layer} (hkeeps : layer.Keeps p) :
    (addLayer n layer).at? p = settle (layer.reaching p) (n.at? p) := by
  rw [addLayer_eq, at?_putAll, List.flatMap_map]
  · rfl
  · intro put hput n
    obtain ⟨e, he, rfl⟩ := List.mem_map.1 hput
    exact at?_putAt (hkeeps e he)

theorem open_addLayer {layer : Layer} (hkeeps : layer.Keeps p) (hopen : Open p n) : Open p (addLayer n layer) :=
  List.foldlRecOn layer _ hopen fun _ hm e he => open_putAt (hkeeps e he) hm.fields

end FaultInjection.Settings
