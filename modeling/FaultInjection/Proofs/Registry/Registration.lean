import FaultInjection.Proofs.Http.Atomicity
import FaultInjection.Proofs.Name.Construction
import FaultInjection.Proofs.Run
import FaultInjection.Proofs.Text.ByteOrder

/-!
# Registration

A registry can be built of texts that are names and differ from each other. Otherwise the earliest text that
is no name or stands before already settles the error, whichever of the two it is (`Unfit`). The names are
kept in the order of their bytes, and nothing that is asked of a registry later changes them:
`registration_and_order`.
-/

namespace FaultInjection.Registry

open Text

/-- What is wrong with the text at a place of a row: it is no name, or it stands at an earlier place. -/
inductive Unfit (texts : List String) (i : Nat) : RegistryError → Prop where
  | invalid {s : String} {fs : List NameFault} : texts[i]? = some s → Name.ofString s = .error fs →
      Unfit texts i (.registration (Name.inputError s fs))
  | repeated {s : String} {j : Nat} : texts[i]? = some s → j < i → texts[j]? = some s →
      Unfit texts i (.duplicateName s)

/-- Everything is right with the texts before a place. -/
def FitBefore (texts : List String) (i : Nat) : Prop := ∀ j < i, ∀ e, ¬ Unfit texts j e

variable {r : Registry} {texts : List String} {text : String} {e e' : RegistryError} {i i' : Nat}

/-- A text is refused because it is no name, or because it is registered. -/
theorem register_eq_error (h : r.register text = .error e) :
    (∃ fs, Name.ofString text = .error fs ∧ e = .registration (Name.inputError text fs)) ∨
      (text ∈ r.names ∧ e = .duplicateName text) := by
  unfold register at h
  split at h
  · next fs hfs => exact .inl ⟨fs, hfs, (Except.error.inj h).symm⟩
  · next n hn =>
    obtain rfl := Name.ofString_eq_ok_iff.1 hn
    split at h
    · next hc => exact .inr ⟨contains_iff.1 hc, (Except.error.inj h).symm⟩
    · cases h

/-- Behind texts that are all right only one thing can be wrong: what is no name was none before. -/
theorem Unfit.unique (hfirst : FitBefore texts i) (h : Unfit texts i e) (h' : Unfit texts i e') : e = e' := by
  have hapart : ∀ {s fs j}, texts[i]? = some s → Name.ofString s = .error fs → j < i → texts[j]? ≠ some s :=
    fun _ hfs hj hs => hfirst _ hj _ (.invalid hs hfs)
  cases h with
  | invalid hs hfs =>
    cases h' with
    | invalid hs' hfs' =>
      obtain rfl := Option.some.inj (hs.symm.trans hs')
      obtain rfl := Except.error.inj (hfs.symm.trans hfs')
      rfl
    | repeated hs' hj hsj =>
      obtain rfl := Option.some.inj (hs.symm.trans hs')
      exact absurd hsj (hapart hs hfs hj)
  | repeated hs hj hsj =>
    cases h' with
    | invalid hs' hfs' =>
      obtain rfl := Option.some.inj (hs.symm.trans hs')
      exact absurd hsj (hapart hs hfs' hj)
    | repeated hs' _ _ =>
      obtain rfl := Option.some.inj (hs.symm.trans hs')
      rfl

/-- Nothing is wrong with names that differ from each other. -/
theorem not_unfit (hnames : ∀ s ∈ texts, ∃ n, Name.ofString s = .ok n) (hnodup : texts.Nodup) :
    ¬ Unfit texts i e := by
  intro h
  cases h with
  | invalid hs hfs =>
    obtain ⟨n, hn⟩ := hnames _ (List.mem_of_getElem? hs)
    rw [hn] at hfs
    cases hfs
  | repeated hs hj hsj =>
    have hlt : i < texts.length := (List.getElem?_eq_some_iff.1 hs).1
    exact List.nodup_iff_getElem?_ne_getElem?.1 hnodup _ _ hj hlt (hsj.trans hs.symm)

/-- Whether something is wrong at a place depends on what stands up to there. -/
theorem Unfit.of_append {after : List String} (hi : i < texts.length) (h : Unfit (texts ++ after) i e) :
    Unfit texts i e := by
  cases h with
  | invalid hs hfs => exact .invalid (by rwa [List.getElem?_append_left hi] at hs) hfs
  | repeated hs hj hsj =>
    rw [List.getElem?_append_left hi] at hs
    rw [List.getElem?_append_left (by omega)] at hsj
    exact .repeated hs hj hsj

/-- A registry holds names only, each of them once. -/
theorem valid_of_ofNames (h : ofNames texts = .ok r) :
    (∀ s ∈ texts, ∃ n, Name.ofString s = .ok n) ∧ texts.Nodup := by
  obtain ⟨hfresh, hperm⟩ := ofNames_spec h
  refine ⟨fun s hs => ?_, hperm.nodup_iff.1 hfresh.nodup⟩
  obtain ⟨n, hn⟩ := exists_name (hperm.mem_iff.2 hs)
  exact ⟨n, Name.ofString_eq_ok_iff.2 hn⟩

theorem exists_unfit_of_ofNames (h : ofNames texts = .error e) : ∃ i, Unfit texts i e ∧ FitBefore texts i := by
  obtain ⟨before, text, after, r, rfl, hbefore, htext⟩ := exists_of_foldlM_eq_error h
  obtain ⟨hnames, hnodup⟩ := valid_of_ofNames hbefore
  have hplace : (before ++ text :: after)[before.length]? = some text := by simp
  refine ⟨before.length, ?_, fun j hj e' hunfit => not_unfit hnames hnodup (hunfit.of_append hj)⟩
  obtain ⟨fs, hfs, rfl⟩ | ⟨hmem, rfl⟩ := register_eq_error htext
  · exact .invalid hplace hfs
  · obtain ⟨j, hj⟩ := List.mem_iff_getElem?.1 ((ofNames_spec hbefore).2.mem_iff.1 hmem)
    have hlt : j < before.length := (List.getElem?_eq_some_iff.1 hj).1
    exact .repeated hplace hlt (by rwa [List.getElem?_append_left hlt])

theorem exists_ofNames_iff :
    (∃ r, ofNames texts = .ok r) ↔ (∀ s ∈ texts, ∃ n, Name.ofString s = .ok n) ∧ texts.Nodup := by
  refine ⟨fun ⟨r, hr⟩ => valid_of_ofNames hr, fun ⟨hnames, hnodup⟩ => ?_⟩
  cases h : ofNames texts with
  | ok r => exact ⟨r, rfl⟩
  | error e =>
    obtain ⟨i, hunfit, -⟩ := exists_unfit_of_ofNames h
    exact absurd hunfit (not_unfit hnames hnodup)

theorem ofNames_eq_error_iff : ofNames texts = .error e ↔ ∃ i, Unfit texts i e ∧ FitBefore texts i := by
  refine ⟨exists_unfit_of_ofNames, ?_⟩
  rintro ⟨i, hunfit, hfirst⟩
  cases h : ofNames texts with
  | ok r =>
    obtain ⟨hnames, hnodup⟩ := valid_of_ofNames h
    exact absurd hunfit (not_unfit hnames hnodup)
  | error e' =>
    obtain ⟨i', hunfit', hfirst'⟩ := exists_unfit_of_ofNames h
    -- Each of the two places is the least one.
    obtain rfl : i = i' := Nat.le_antisymm (Nat.le_of_not_lt fun hlt => hfirst i' hlt e' hunfit')
      (Nat.le_of_not_lt fun hlt => hfirst' i hlt e hunfit)
    rw [hunfit'.unique hfirst' hunfit]

/-- A registry is built of texts exactly if they are names and differ from each other; otherwise the error is
that of the least place at which a text is no name or stands before already. What is built has the names in the
ascending order of their bytes, each once, with every failpoint disabled; and it has and lists the same names
after whatever is asked of it. -/
theorem registration_and_order (texts : List String) :
    ((∃ r, ofNames texts = .ok r) ↔ (∀ s ∈ texts, ∃ n, Name.ofString s = .ok n) ∧ texts.Nodup) ∧
    (∀ e, ofNames texts = .error e ↔ ∃ i, Unfit texts i e ∧ FitBefore texts i) ∧
    ∀ r, ofNames texts = .ok r →
      r.names.Perm texts ∧ r.list.map Prod.fst = r.names ∧
      r.names.Pairwise (fun m n => Utf8.bytes m < Utf8.bytes n) ∧
      (∀ n ∈ r.names, r.get n = .ok ⟨n, false, "", 0⟩) ∧
      ∀ d uses, ((Trail.start r d).run uses).registry.names = r.names ∧
        ((Trail.start r d).run uses).registry.list.map Prod.fst = r.names := by
  refine ⟨exists_ofNames_iff, fun e => ofNames_eq_error_iff, fun r hr => ?_⟩
  obtain ⟨hfresh, hperm⟩ := ofNames_spec hr
  refine ⟨hperm, (names_eq_map_list r).symm, ?_, fun n hn => ?_, fun d uses => ?_⟩
  · exact hfresh.ascending.imp Utf8.bytes_lt_bytes_iff.2
  · obtain ⟨f, hf⟩ := exists_find? hn
    have hnone := hfresh.installed_eq_none (List.mem_of_find?_eq_some hf)
    rw [get_of_some hf, Failpoint.snapshot, hnone, name_of_find? hf]
  · obtain ⟨es, hevolves, -⟩ := Trail.leads_run (Trail.start r d) uses
    rw [← names_eq_map_list]
    exact ⟨hevolves.names, hevolves.names⟩

end FaultInjection.Registry
