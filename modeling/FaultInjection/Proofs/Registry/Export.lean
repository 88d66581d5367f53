import FaultInjection.Proofs.Assignment
import FaultInjection.Proofs.Name
import FaultInjection.Proofs.Registry.Answers

/-!
# Exporting a registry

The enabled entries of a listing, written as a bulk text, carry the terms of a registry over to any
other with the same names: `assign_export`. The bulk text is cut without regard to the grammar of
terms, so this rests on where delimiters may stand in an accepted term, and on every term in a
registry being what its text denotes (`wellRead_run`).
-/

namespace FaultInjection

open Text

namespace Registry

/-- The term that is installed under a name. -/
def installed? (r : Registry) (n : String) : Option Term :=
  (r.find? n).bind Failpoint.installed

/-- The entries of the listing that show a term. -/
def enabledEntries (r : Registry) : List Assignment :=
  (r.list.filter fun entry => entry.2 ≠ "").map fun entry => ⟨entry.1, entry.2⟩

variable {r : Registry} {n : String} {f : Failpoint}

theorem installed?_of_find? (h : r.find? n = some f) : r.installed? n = f.installed := by
  rw [installed?, h, Option.bind_some]

/-- Every term in a registry is what its text denotes. -/
def WellRead (r : Registry) : Prop := ∀ n t, r.installed? n = some t → Term.parse t.source = .ok t

theorem installed?_of_not_mem (h : n ∉ r.names) : r.installed? n = none := by
  rw [installed?, find?_eq_none_iff.2 h, Option.bind_none]

theorem installed?_of_disabled (h : ∀ f ∈ r.failpoints, f.installed = none) (n : String) :
    r.installed? n = none := by
  cases hf : r.find? n with
  | none => rw [installed?, hf, Option.bind_none]
  | some f => rw [installed?_of_find? hf, h f (List.mem_of_find?_eq_some hf)]

theorem term_of_installed? {t : Term} (h : r.installed? n = some t) : r.term n = .ok t.display := by
  cases hf : r.find? n with
  | none => simp [installed?, hf] at h
  | some f =>
    rw [installed?_of_find? hf] at h
    unfold term
    rw [lookup_of_some hf, Except.bind, Failpoint.term_of_some h]

theorem mem_names_of_installed? {t : Term} (h : r.installed? n = some t) : n ∈ r.names := by
  by_contra hn
  simp [installed?_of_not_mem hn] at h

/-- With distinct names the listing is settled by the names and the term under each. -/
theorem list_eq_map_names (hr : r.names.Nodup) :
    r.list = r.names.map fun n => (n, ((r.installed? n).map Term.display).getD "") := by
  rw [list, names, List.map_map]
  refine List.map_congr_left fun f hf => ?_
  rw [Function.comp_apply, installed?_of_find? (find?_of_mem hr hf), Failpoint.termText]
  cases f.installed <;> rfl

/-- The calls on a new registry leave nothing in it but what was read from its own text. -/
theorem wellRead_run (hr : r.Fresh) (d : Draws) (operations : List Operation) :
    (Session.run ⟨r, d⟩ operations).registry.WellRead := by
  intro n t h
  have hn : n ∈ r.names := Session.names_run ⟨r, d⟩ operations ▸ mem_names_of_installed? h
  obtain ⟨f, hf, hfits⟩ := Standing.exists_fits_run hr d operations hn
  rw [installed?_of_find? hf] at h
  cases hst : Standing.ofHistory (Session.history n ⟨r, d⟩ operations) with
  | disabled =>
    rw [hst] at hfits
    have hnone : f.installed = none := hfits
    simp [hnone] at h
  | armed spec hits =>
    rw [hst] at hfits
    obtain ⟨t', ht, hinstalled, -⟩ := hfits
    rw [hinstalled] at h
    obtain rfl : t' = t := Option.some.inj h
    rwa [(chainText_of_parse ht).1]

/-! ## The entries of a listing -/

theorem ne_empty_of_parse {spec : String} {t : Term} (h : Term.parse spec = .ok t) : spec ≠ "" := by
  rintro rfl
  exact (chainText_of_parse h).2.not_blanks (by simp [Blanks])

theorem mem_enabledEntries (hr : r.names.Nodup) (hw : r.WellRead) {a : Assignment} :
    a ∈ r.enabledEntries ↔ ∃ t, r.installed? a.name = some t ∧ t.source = a.spec := by
  simp only [enabledEntries, list_eq_map_names hr, List.mem_map, List.mem_filter]
  constructor
  · rintro ⟨entry, ⟨⟨n, hn, rfl⟩, hne⟩, rfl⟩
    cases ht : r.installed? n with
    | none => simp [ht] at hne
    | some t => exact ⟨t, rfl, rfl⟩
  · rintro ⟨t, ht, hspec⟩
    have hne := ne_empty_of_parse (hw _ t ht)
    refine ⟨(a.name, t.source), ⟨⟨a.name, mem_names_of_installed? ht, ?_⟩, by simpa using hne⟩, ?_⟩
    · rw [ht]
      rfl
    · rw [hspec]

theorem nodup_enabledEntries (hr : r.names.Nodup) : (r.enabledEntries.map Assignment.name).Nodup := by
  have hsub : (r.list.filter fun entry => entry.2 ≠ "").Sublist r.list := List.filter_sublist
  rw [names_eq_map_list] at hr
  rw [enabledEntries, List.map_map]
  exact hr.sublist (hsub.map Prod.fst)

/-! ## Entries with distinct names -/

theorem settling_of_not_mem {as : List Assignment} (h : n ∉ as.map Assignment.name) :
    settling n (as.map .ok) f = f := by
  induction as with
  | nil => rfl
  | cons a as ih =>
    obtain ⟨hne, htail⟩ := not_or.1 (mt List.mem_cons.2 h)
    rw [List.map_cons, settling, if_neg hne, ih htail]

theorem settling_of_mem {as : List Assignment} (hn : (as.map Assignment.name).Nodup) {a : Assignment}
    (ha : a ∈ as) : settling a.name (as.map .ok) f = setting a.spec f := by
  induction as with
  | nil => cases ha
  | cons b as ih =>
    obtain ⟨hb, hn⟩ := List.nodup_cons.1 hn
    rw [List.map_cons, settling]
    rcases List.mem_cons.1 ha with rfl | ha
    · rw [if_pos rfl, settling_of_not_mem hb]
    · have hne : a.name ≠ b.name := fun h => hb (h ▸ List.mem_map_of_mem ha)
      rw [if_neg hne]
      exact ih hn ha

theorem result_applyEntries {as : List Assignment} (hn : ∀ a ∈ as, a.name ∈ r.names)
    (ht : ∀ a ∈ as, ∃ t, Term.parse a.spec = .ok t) : (r.applyEntries (as.map .ok)).result = .ok () := by
  induction as generalizing r with
  | nil => rfl
  | cons a as ih =>
    obtain ⟨f, hf⟩ := exists_find? (hn a (by simp))
    obtain ⟨t, ht'⟩ := ht a (by simp)
    have hhead : (r.applyEntry (.ok a)).result = .ok () := by rw [applyEntry, set_of_parse hf ht']
    have htail := ih (r := (r.applyEntry (.ok a)).registry)
      (fun b hb => by rw [applyEntry, names_set]; exact hn b (by simp [hb])) fun b hb => ht b (by simp [hb])
    rw [List.map_cons, applyEntries]
    dsimp only
    rw [hhead, htail]
    rfl

/-! ## Bringing the entries into another registry -/

/-- The enabled entries of one registry, in some order, on their way to another with the same names. -/
structure Transfer (source target : Registry) (as : List Assignment) : Prop where
  nodup : source.names.Nodup
  wellRead : source.WellRead
  unquoted : ∀ n ∈ source.names, '"' ∉ n.toList
  names : target.names = source.names
  entries : as.Perm source.enabledEntries

namespace Transfer

variable {source target : Registry} {as : List Assignment}

theorem mem_iff (h : Transfer source target as) {a : Assignment} :
    a ∈ as ↔ ∃ t, source.installed? a.name = some t ∧ t.source = a.spec := by
  rw [h.entries.mem_iff]
  exact mem_enabledEntries h.nodup h.wellRead

/-- A bulk text carries each of the entries. -/
theorem carried (h : Transfer source target as) {a : Assignment} (ha : a ∈ as) : a.Carried := by
  obtain ⟨t, ht, hspec⟩ := h.mem_iff.1 ha
  have hn := mem_names_of_installed? ht
  obtain ⟨f, -, hf⟩ := List.mem_map.1 hn
  refine ⟨fun c hc => ⟨?_, ?_⟩, ?_⟩
  · rintro rfl
    exact h.unquoted _ hn hc
  · exact f.name.isDelimiter_eq_false c (hf ▸ hc)
  · rw [← hspec]
    apply (chainText_of_parse (h.wellRead _ t ht)).2.isSealed.mono
    intro c hc
    simp [hc]

theorem assign_eq (h : Transfer source target as) :
    target.assign (Assignment.writeMany as) = target.applyEntries (as.map .ok) := by
  rw [assign, Assignment.parseMany_writeMany fun a ha => h.carried ha]

theorem result_assign (h : Transfer source target as) :
    (target.assign (Assignment.writeMany as)).result = .ok () := by
  rw [h.assign_eq]
  apply result_applyEntries
  · intro a ha
    obtain ⟨t, ht, -⟩ := h.mem_iff.1 ha
    exact h.names ▸ mem_names_of_installed? ht
  · intro a ha
    obtain ⟨t, ht, hspec⟩ := h.mem_iff.1 ha
    exact ⟨t, hspec ▸ h.wellRead _ t ht⟩

theorem names_assign (h : Transfer source target as) :
    (target.assign (Assignment.writeMany as)).registry.names = source.names :=
  (names_applyEntries _ _).trans h.names

/-- The failpoint under a name takes over the term of the entry for it, if there is one. -/
theorem settling_eq (h : Transfer source target as) (n : String) (f : Failpoint) :
    (settling n (as.map .ok) f).installed = (source.installed? n).or f.installed := by
  cases ht : source.installed? n with
  | none =>
    have hnone : n ∉ as.map Assignment.name := by
      intro hmem
      obtain ⟨a, ha, rfl⟩ := List.mem_map.1 hmem
      obtain ⟨t, hsome, -⟩ := h.mem_iff.1 ha
      simp [ht] at hsome
    rw [settling_of_not_mem hnone, Option.none_or]
  | some t =>
    have hmem : ⟨n, t.source⟩ ∈ as := h.mem_iff.2 ⟨t, ht, rfl⟩
    have hnodup : (as.map Assignment.name).Nodup :=
      (h.entries.map Assignment.name).nodup_iff.2 (nodup_enabledEntries h.nodup)
    rw [settling_of_mem hnodup hmem, setting, h.wellRead n t ht]
    rfl

/-- Each name has the term of the listing, and else the one that it had. -/
theorem installed?_assign (h : Transfer source target as) (n : String) :
    (target.assign (Assignment.writeMany as)).registry.installed? n =
      (source.installed? n).or (target.installed? n) := by
  by_cases hn : n ∈ source.names
  · obtain ⟨f, hf⟩ := exists_find? (h.names ▸ hn)
    rw [h.assign_eq, installed?_of_find? (find?_applyEntries hf _), installed?_of_find? hf]
    exact h.settling_eq n f
  · have hafter : n ∉ (target.assign (Assignment.writeMany as)).registry.names := by rwa [h.names_assign]
    rw [installed?_of_not_mem hafter, installed?_of_not_mem hn, installed?_of_not_mem (h.names ▸ hn)]
    rfl

theorem list_assign (h : Transfer source target as) (hnone : ∀ n, target.installed? n = none) :
    (target.assign (Assignment.writeMany as)).registry.list = source.list := by
  have hnodup : (target.assign (Assignment.writeMany as)).registry.names.Nodup := by
    rw [h.names_assign]
    exact h.nodup
  rw [list_eq_map_names hnodup, list_eq_map_names h.nodup, h.names_assign]
  refine List.map_congr_left fun n _ => ?_
  rw [h.installed?_assign, hnone n, Option.or_none]

end Transfer

open Session in
/-- Take any two new registries with the same names, none of which has a quote, and make any calls on
each. The terms that one of them then lists, in any order and written as a bulk text, can be assigned
to the other without an error. Each name so written has the same term there, text and segments, and
if the other had none then the listings are equal. -/
theorem assign_export (texts texts' : List String) (r r' : Registry) (h : ofNames texts = .ok r)
    (h' : ofNames texts' = .ok r') (hsame : ∀ n, n ∈ texts' ↔ n ∈ texts)
    (hq : ∀ n ∈ texts, '"' ∉ n.toList) (d d' : Draws) (operations operations' : List Operation)
    (source target : Registry) (hsource : source = (run ⟨r, d⟩ operations).registry)
    (htarget : target = (run ⟨r', d'⟩ operations').registry) (as : List Assignment)
    (hperm : as.Perm source.enabledEntries) :
    (target.assign (Assignment.writeMany as)).result = .ok () ∧
    (∀ n t, source.installed? n = some t →
      (target.assign (Assignment.writeMany as)).registry.term n = source.term n ∧
      (target.assign (Assignment.writeMany as)).registry.installed? n = some t) ∧
    ((∀ f ∈ target.failpoints, f.installed = none) →
      (target.assign (Assignment.writeMany as)).registry.list = source.list) := by
  obtain ⟨hfresh, hin⟩ := ofNames_spec h
  obtain ⟨hfresh', hin'⟩ := ofNames_spec h'
  have hnew : r'.names = r.names := by
    apply hfresh'.names_eq hfresh
    intro n
    rw [hin'.mem_iff, hin.mem_iff]
    exact hsame n
  have hsnames : source.names = r.names := hsource ▸ names_run _ operations
  have htnames : target.names = r'.names := htarget ▸ names_run _ operations'
  have htransfer : Transfer source target as := {
    nodup := hsnames ▸ hfresh.nodup
    wellRead := hsource ▸ wellRead_run hfresh d operations
    unquoted := fun n hn => hq n (hin.mem_iff.1 (hsnames ▸ hn))
    names := htnames.trans (hnew.trans hsnames.symm)
    entries := hperm }
  refine ⟨htransfer.result_assign, fun n t ht => ?_, fun hnone => ?_⟩
  · have hterm : (target.assign (Assignment.writeMany as)).registry.installed? n = some t := by
      rw [htransfer.installed?_assign, ht, Option.some_or]
    exact ⟨(term_of_installed? hterm).trans (term_of_installed? ht).symm, hterm⟩
  · exact htransfer.list_assign (installed?_of_disabled hnone)

/-- A term with every delimiter, an escaped quote and a line break in its string. -/
def delimiterTerm : String := " return(\";=->\\\"\n\") -> 2*print"

/-- A new registry with that term installed under one of its names. -/
def delimited : Session := Session.run ⟨twoNames, .constant .zero⟩ [.set "a" delimiterTerm]

/-- The delimiters come through, over a term that was there before. -/
theorem assign_export_delimiterTerm :
    (((Session.run ⟨twoNames, .constant .zero⟩ [.set "a" "off", .hit "a"]).registry.assign
      (Assignment.writeMany [⟨"a", delimiterTerm⟩])).registry.term "a") = .ok delimiterTerm := by
  have hnew : ofNames ["b", "a"] = .ok twoNames := by decide +kernel
  have hnew' : ofNames ["a", "b"] = .ok twoNames := by decide +kernel
  have hentries : [⟨"a", delimiterTerm⟩] = delimited.registry.enabledEntries := by decide +kernel
  have hterm : delimited.registry.term "a" = .ok delimiterTerm := by decide +kernel
  have hsome : (delimited.registry.installed? "a").isSome := by decide +kernel
  obtain ⟨t, ht⟩ := Option.isSome_iff_exists.1 hsome
  have hall := assign_export ["b", "a"] ["a", "b"] twoNames twoNames hnew hnew' (by simp [or_comm]) (by decide)
    (.constant .zero) (.constant .zero) [.set "a" delimiterTerm] [.set "a" "off", .hit "a"] _ _ rfl rfl _
    (.of_eq hentries)
  exact (hall.2.1 "a" t ht).1.trans hterm

end Registry

end FaultInjection
