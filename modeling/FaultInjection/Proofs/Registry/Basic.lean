import FaultInjection.Proofs.Result
import FaultInjection.Registry
import Mathlib.Data.List.Find
import Mathlib.Data.List.Perm.Basic

/-!
# Looking up and changing failpoints

The names of a registry never change after `ofNames`, which gives names in ascending order and
disabled failpoints (`ofNames_spec`). Each operation acts on one failpoint at a time: `find?_modify` says what
a change under one name does to the failpoint under another, and `find?_set` and `find?_deactivate`
follow from it.
-/

namespace FaultInjection

namespace Failpoint

variable {f : Failpoint}

theorem hit_of_none (h : f.installed = none) (d : Draws) : f.hit d = (.error .disabled, f, d) := by
  rw [hit, h]

theorem hit_of_some {t : Term} (h : f.installed = some t) (d : Draws) : f.hit d =
    (.ok (f.position.advance t d).1, { f with position := (f.position.advance t d).2.1, hits := f.hits + 1 },
      (f.position.advance t d).2.2) := by
  unfold hit
  rw [h]

theorem name_hit (f : Failpoint) (d : Draws) : (f.hit d).2.1.name = f.name := by
  cases h : f.installed with
  | none => rw [hit_of_none h]
  | some t => rw [hit_of_some h]

end Failpoint

namespace Registry

variable {r : Registry} {m n : String}

/-! ## Names -/

/-- A change that leaves the failpoint under `m` its name. -/
def KeepsName (r : Registry) (m : String) (change : Failpoint → Failpoint) : Prop :=
  ∀ f ∈ r.failpoints, f.name.text = m → (change f).name.text = m

theorem name_modify {change : Failpoint → Failpoint} (h : KeepsName r m change) {f : Failpoint}
    (hf : f ∈ r.failpoints) :
    (if f.name.text == m then change f else f).name.text = f.name.text := by
  by_cases hm : f.name.text = m
  · rw [if_pos (by simpa using hm), h f hf hm, hm]
  · rw [if_neg (by simpa using hm)]

theorem names_modify {change : Failpoint → Failpoint} (h : KeepsName r m change) :
    (r.modify m change).names = r.names := by
  rw [names, names, modify, List.map_map]
  exact List.map_congr_left fun f hf => name_modify h hf

theorem find?_modify {change : Failpoint → Failpoint} (h : KeepsName r m change) :
    (r.modify m change).find? n =
      (r.find? n).map fun f => if f.name.text == m then change f else f := by
  rw [find?, find?, modify, List.find?_map]
  congr 1
  refine List.find?_congr fun f hf => ?_
  rw [Function.comp_apply, name_modify h hf]

theorem name_of_find? {f : Failpoint} (h : r.find? n = some f) : f.name.text = n := by
  simpa using List.find?_some h

theorem find?_eq_none_iff : r.find? n = none ↔ n ∉ r.names := by
  rw [find?, List.find?_eq_none, names, List.mem_map]
  simp

/-- A registered text is the text of a name. -/
theorem exists_name (h : n ∈ r.names) : ∃ name : Name, name.text = n := by
  obtain ⟨f, -, hf⟩ := List.mem_map.1 h
  exact ⟨f.name, hf⟩

theorem exists_find? (h : n ∈ r.names) : ∃ f, r.find? n = some f :=
  Option.ne_none_iff_exists'.1 fun hnone => find?_eq_none_iff.1 hnone h

theorem mem_names_of_find? {f : Failpoint} (h : r.find? n = some f) : n ∈ r.names := by
  by_contra hn
  exact Option.some_ne_none f (h.symm.trans (find?_eq_none_iff.2 hn))

theorem ne_of_find? {f : Failpoint} (h : r.find? n = some f) (hm : r.find? m = none) : n ≠ m := by
  rintro rfl
  simp [h] at hm

/-- A change under `m` reaches the failpoint under `n` if the names are equal. -/
theorem find?_modify_of_find? {change : Failpoint → Failpoint} (h : KeepsName r m change) {f : Failpoint}
    (hf : r.find? n = some f) :
    (r.modify m change).find? n = some (if n = m then change f else f) := by
  rw [find?_modify h, hf, Option.map_some, name_of_find? hf]
  by_cases hm : n = m
  · rw [if_pos hm, if_pos (by simpa using hm)]
  · rw [if_neg hm, if_neg (by simpa using hm)]

/-! ## Building a registry -/

theorem insertName_perm (n : Name) (fs : List Failpoint) :
    (insertName n fs).Perm (Failpoint.disabled n :: fs) := by
  induction fs with
  | nil => exact .refl _
  | cons f fs ih =>
    rw [insertName]
    split
    · exact .refl _
    · exact (ih.cons f).trans (.swap _ _ _)

theorem contains_iff : r.contains n = true ↔ n ∈ r.names := by
  rw [contains, names, List.any_eq_true, List.mem_map]
  simp

/-- What registering one more text does. -/
theorem exists_of_register {text : String} {r' : Registry} (h : r.register text = .ok r') :
    ∃ name : Name, name.text = text ∧ text ∉ r.names ∧ r' = ⟨insertName name r.failpoints⟩ := by
  unfold register at h
  split at h
  · simp at h
  · next name hname =>
    have htext : name.text = text := by
      unfold Name.ofString at hname
      split at hname
      · obtain rfl := Except.ok.inj hname
        rfl
      · simp at hname
    split at h
    · simp at h
    · next hc =>
      rw [htext, contains_iff] at hc
      exact ⟨name, htext, hc, (Except.ok.inj h).symm⟩

/-- A registry of names in ascending order in which every failpoint is a new one. -/
structure Fresh (r : Registry) : Prop where
  ascending : r.names.Pairwise (· < ·)
  disabled : ∀ f ∈ r.failpoints, f = Failpoint.disabled f.name

theorem Fresh.nodup (hr : Fresh r) : r.names.Nodup := hr.ascending.imp String.ne_of_lt

theorem Fresh.installed_eq_none (hr : Fresh r) {f : Failpoint} (hf : f ∈ r.failpoints) : f.installed = none := by
  rw [hr.disabled f hf]
  rfl

theorem names_insertName (name : Name) (fs : List Failpoint) :
    (names ⟨insertName name fs⟩).Perm (name.text :: names ⟨fs⟩) :=
  (insertName_perm name fs).map _

theorem ascending_insertName {name : Name} {fs : List Failpoint} (hn : name.text ∉ names ⟨fs⟩)
    (h : (names ⟨fs⟩).Pairwise (· < ·)) : (names ⟨insertName name fs⟩).Pairwise (· < ·) := by
  induction fs with
  | nil => exact List.pairwise_singleton _ _
  | cons f fs ih =>
    obtain ⟨hf, hfs⟩ := List.pairwise_cons.1 h
    obtain ⟨hne, hnew⟩ := not_or.1 (mt List.mem_cons.2 hn)
    rw [insertName]
    split
    · next hlt =>
      refine List.pairwise_cons.2 ⟨fun m hm => ?_, h⟩
      rcases List.mem_cons.1 hm with rfl | hm
      · exact hlt
      · exact String.lt_trans hlt (hf m hm)
    · next hlt =>
      refine List.pairwise_cons.2 ⟨fun m hm => ?_, ih hnew hfs⟩
      rcases List.mem_cons.1 ((names_insertName name fs).mem_iff.1 hm) with rfl | hm
      · exact Std.lt_of_le_of_ne (String.not_lt.1 hlt) (Ne.symm hne)
      · exact hf m hm

theorem Fresh.register {text : String} {r' : Registry} (hr : Fresh r) (h : r.register text = .ok r') :
    Fresh r' ∧ r'.names.Perm (text :: r.names) := by
  obtain ⟨name, rfl, hnew, rfl⟩ := exists_of_register h
  refine ⟨⟨?_, ?_⟩, names_insertName name r.failpoints⟩
  · exact ascending_insertName hnew hr.ascending
  · intro f hf
    rcases List.mem_cons.1 ((insertName_perm name r.failpoints).mem_iff.1 hf) with rfl | hf
    · rfl
    · exact hr.disabled f hf

theorem Fresh.foldlM_register {texts : List String} {r' : Registry} (hr : Fresh r)
    (h : texts.foldlM Registry.register r = .ok r') : Fresh r' ∧ r'.names.Perm (texts ++ r.names) := by
  induction texts generalizing r with
  | nil =>
    obtain rfl := Except.ok.inj h
    exact ⟨hr, .refl _⟩
  | cons text texts ih =>
    rw [List.foldlM_cons] at h
    obtain ⟨r1, h1, h⟩ := bind_eq_ok_iff.1 h
    obtain ⟨hr1, hp1⟩ := hr.register h1
    obtain ⟨hr', hp⟩ := ih hr1 h
    exact ⟨hr', hp.trans ((hp1.append_left texts).trans List.perm_middle)⟩

/-- A registry that has just been built has the given names, each once and in order, and no term is
installed. -/
theorem ofNames_spec {texts : List String} (h : ofNames texts = .ok r) :
    Fresh r ∧ r.names.Perm texts := by
  have hempty : Fresh ⟨[]⟩ := ⟨.nil, by simp⟩
  obtain ⟨hr, hp⟩ := hempty.foldlM_register h
  exact ⟨hr, by simpa [names] using hp⟩

/-- Two new registries with the same names have them in the same order. -/
theorem Fresh.names_eq {r' : Registry} (hr : Fresh r) (hr' : Fresh r')
    (h : ∀ n, n ∈ r.names ↔ n ∈ r'.names) : r.names = r'.names := by
  have hperm : r.names.Perm r'.names := (List.perm_ext_iff_of_nodup hr.nodup hr'.nodup).2 h
  refine hperm.eq_of_pairwise (fun m n _ _ hmn hnm => ?_) hr.ascending hr'.ascending
  exact absurd hnm (String.lt_asymm hmn)

/-! ## Operations -/

theorem lookup_eq_ok_iff {f : Failpoint} : r.lookup n = .ok f ↔ r.find? n = some f := by
  rw [lookup]
  split
  · next h => simp [h]
  · next g h => simp [h]

theorem lookup_of_none (h : r.find? n = none) : r.lookup n = .error .notFound := by rw [lookup, h]

theorem lookup_of_some {f : Failpoint} (h : r.find? n = some f) : r.lookup n = .ok f :=
  lookup_eq_ok_iff.2 h

theorem keepsName_install (t : Term) : KeepsName r m (·.install t) := fun _ _ h => h

theorem keepsName_clear : KeepsName r m Failpoint.clear := fun _ _ h => h

theorem keepsName_hit {f : Failpoint} (hf : r.find? m = some f) (d : Draws) :
    KeepsName r m fun _ => (f.hit d).2.1 :=
  fun _ _ _ => (congrArg Name.text (Failpoint.name_hit f d)).trans (name_of_find? hf)

theorem set_of_none (h : r.find? m = none) (spec : String) : r.set m spec = ⟨r, [], .error .notFound⟩ := by
  rw [set, lookup_of_none h]

theorem set_of_parse {f : Failpoint} (h : r.find? m = some f) {spec : String} {t : Term}
    (ht : Term.parse spec = .ok t) :
    r.set m spec = ⟨r.modify m (·.install t), [Event.enabled m spec], .ok ()⟩ := by
  rw [set, lookup_of_some h]
  dsimp only
  rw [ht]

theorem set_of_fault {f : Failpoint} (h : r.find? m = some f) {spec : String} {fault : TermFault}
    (ht : Term.parse spec = .error fault) :
    r.set m spec = ⟨r, [Event.rejected m spec fault.toInputError.message],
      .error (.parse fault.toInputError)⟩ := by
  rw [set, lookup_of_some h]
  dsimp only
  rw [ht]

theorem deactivate_of_none (h : r.find? m = none) : r.deactivate m = ⟨r, [], .error .notFound⟩ := by
  rw [deactivate, lookup_of_none h]

theorem deactivate_of_some {f : Failpoint} (h : r.find? m = some f) :
    r.deactivate m = ⟨r.modify m Failpoint.clear, [Event.disabled m], .ok ()⟩ := by
  rw [deactivate, lookup_of_some h]

theorem hit_of_none (h : r.find? m = none) (d : Draws) : r.hit m d = (.error .notFound, r, d) := by
  rw [hit, h]

theorem hit_of_some {f : Failpoint} (h : r.find? m = some f) (d : Draws) :
    r.hit m d = ((f.hit d).1, r.modify m (fun _ => (f.hit d).2.1), (f.hit d).2.2) := by
  rw [hit, h]

/-- A failpoint after a text was set on it: with the term if the text denotes one, and else as it was. -/
def setting (spec : String) (f : Failpoint) : Failpoint :=
  match Term.parse spec with
  | .ok t => f.install t
  | .error _ => f

theorem find?_set {f : Failpoint} (h : r.find? n = some f) (m spec : String) :
    (r.set m spec).registry.find? n = some (if n = m then setting spec f else f) := by
  cases hm : r.find? m with
  | none =>
    rw [set_of_none hm, if_neg (ne_of_find? h hm)]
    exact h
  | some g =>
    unfold setting
    cases ht : Term.parse spec with
    | ok t =>
      rw [set_of_parse hm ht]
      exact find?_modify_of_find? (keepsName_install t) h
    | error fault =>
      rw [set_of_fault hm ht, ite_self]
      exact h

theorem find?_deactivate {f : Failpoint} (h : r.find? n = some f) (m : String) :
    (r.deactivate m).registry.find? n = some (if n = m then f.clear else f) := by
  cases hm : r.find? m with
  | none =>
    rw [deactivate_of_none hm, if_neg (ne_of_find? h hm)]
    exact h
  | some g =>
    rw [deactivate_of_some hm]
    exact find?_modify_of_find? keepsName_clear h

theorem find?_hit {f : Failpoint} (h : r.find? n = some f) (m : String) (d : Draws) :
    (r.hit m d).2.1.find? n = some (if n = m then (f.hit d).2.1 else f) := by
  cases hm : r.find? m with
  | none =>
    rw [hit_of_none hm, if_neg (ne_of_find? h hm)]
    exact h
  | some g =>
    rw [hit_of_some hm]
    refine (find?_modify_of_find? (keepsName_hit hm d) h).trans ?_
    by_cases hn : n = m
    · subst hn
      obtain rfl := Option.some.inj (h.symm.trans hm)
      rfl
    · rw [if_neg hn, if_neg hn]

theorem names_set (r : Registry) (m spec : String) : (r.set m spec).registry.names = r.names := by
  cases hm : r.find? m with
  | none => rw [set_of_none hm]
  | some g =>
    cases ht : Term.parse spec with
    | ok t =>
      rw [set_of_parse hm ht]
      exact names_modify (keepsName_install t)
    | error fault => rw [set_of_fault hm ht]

theorem names_deactivate (r : Registry) (m : String) : (r.deactivate m).registry.names = r.names := by
  cases hm : r.find? m with
  | none => rw [deactivate_of_none hm]
  | some g =>
    rw [deactivate_of_some hm]
    exact names_modify keepsName_clear

theorem names_hit (r : Registry) (m : String) (d : Draws) : (r.hit m d).2.1.names = r.names := by
  cases hm : r.find? m with
  | none => rw [hit_of_none hm]
  | some g =>
    rw [hit_of_some hm]
    exact names_modify (keepsName_hit hm d)

/-! ## Bulk operations -/

/-- A failpoint under the name `n` after the entries of a bulk text. -/
def settling (n : String) : List (Except RegistryError Assignment) → Failpoint → Failpoint
  | [], f => f
  | .error _ :: entries, f => settling n entries f
  | .ok a :: entries, f => settling n entries (if n = a.name then setting a.spec f else f)

theorem find?_applyEntries {f : Failpoint} (h : r.find? n = some f)
    (entries : List (Except RegistryError Assignment)) :
    (r.applyEntries entries).registry.find? n = some (settling n entries f) := by
  induction entries generalizing r f with
  | nil => exact h
  | cons entry entries ih =>
    cases entry with
    | error e => exact ih h
    | ok a => exact ih (find?_set h a.name a.spec)

theorem names_applyEntries (r : Registry) (entries : List (Except RegistryError Assignment)) :
    (r.applyEntries entries).registry.names = r.names := by
  induction entries generalizing r with
  | nil => rfl
  | cons entry entries ih =>
    cases entry with
    | error e => exact ih r
    | ok a => exact (ih _).trans (names_set r a.name a.spec)

/-! ## The listing -/

theorem filter_of_find? {fs : List Failpoint} (hn : (fs.map (·.name.text)).Nodup) {f : Failpoint}
    (h : fs.find? (·.name.text == n) = some f) : fs.filter (·.name.text == n) = [f] := by
  induction fs with
  | nil => simp at h
  | cons g fs ih =>
    obtain ⟨hg, hn⟩ := List.nodup_cons.1 hn
    by_cases hgn : (g.name.text == n) = true
    · rw [List.find?_cons_of_pos (a := g) hgn] at h
      obtain rfl := Option.some.inj h
      have hnone : fs.filter (·.name.text == n) = [] := by
        refine List.filter_eq_nil_iff.2 fun f hf hfn => hg (List.mem_map.2 ⟨f, hf, ?_⟩)
        exact (beq_iff_eq.1 hfn).trans (beq_iff_eq.1 hgn).symm
      rw [List.filter_cons_of_pos (a := g) hgn, hnone]
    · rw [List.find?_cons_of_neg (a := g) hgn] at h
      rw [List.filter_cons_of_neg (a := g) hgn, ih hn h]

theorem find?_of_mem (hr : r.names.Nodup) {f : Failpoint} (hf : f ∈ r.failpoints) :
    r.find? f.name.text = some f := by
  obtain ⟨g, hg⟩ := exists_find? (List.mem_map_of_mem hf)
  have hone : r.failpoints.filter (·.name.text == f.name.text) = [g] := filter_of_find? hr hg
  have hmem : f ∈ r.failpoints.filter (·.name.text == f.name.text) := List.mem_filter.2 ⟨hf, by simp⟩
  rw [hone, List.mem_singleton] at hmem
  rw [hg, hmem]

/-- With distinct names the listing has one entry for each name. -/
theorem filter_list (hr : r.names.Nodup) {f : Failpoint} (h : r.find? n = some f) :
    r.list.filter (·.1 == n) = [(n, f.termText)] := by
  have hone : r.failpoints.filter (·.name.text == n) = [f] := filter_of_find? hr h
  rw [list, List.filter_map]
  refine (congrArg _ hone).trans ?_
  rw [List.map_singleton, name_of_find? h]

theorem names_eq_map_list (r : Registry) : r.names = r.list.map Prod.fst := by
  rw [names, list, List.map_map]
  rfl

end Registry

end FaultInjection
