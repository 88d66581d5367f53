import FaultInjection.Proofs.Term.Parse
import FaultInjection.Proofs.Registry.Basic

/-!
# What the entries of a bulk text come to

Entries are applied one after another, and none of them stops the others. What becomes of a failpoint
is read from the end of the row: the last entry that holds a term for its name counts (`Settles`). The
result is read from the front: the first entry that is refused counts (`FirstRefused`). Neither depends
on how the other entries fare, by `settles_applyEntries` and `result_applyEntries_eq_error_iff`.
-/

namespace FaultInjection

namespace Registry

/-- The entry holds the text of a term for the name `n`. -/
def Arms (n : String) (entry : Except RegistryError Assignment) : Prop :=
  ∃ a t, entry = .ok a ∧ a.name = n ∧ Term.parse a.spec = .ok t

/-- A failpoint before and after the entries of a bulk text: it stands at the start of the last term
among them for its name, or it is as it was. -/
inductive Settles (entries : List (Except RegistryError Assignment)) : Failpoint → Failpoint → Prop where
  | armed {before after : List (Except RegistryError Assignment)} {a : Assignment} {t : Term}
      {f : Failpoint} : entries = before ++ .ok a :: after → a.name = f.name.text →
      Term.parse a.spec = .ok t → t.display = a.spec → (∀ later ∈ after, ¬ Arms f.name.text later) →
      Settles entries f { f with installed := some t, position := Position.start t, hits := 0 }
  | kept {f : Failpoint} : (∀ entry ∈ entries, ¬ Arms f.name.text entry) → Settles entries f f

/-- An entry that is carried out: it names a registered failpoint and holds the text of a term. -/
def Accepted (names : List String) (entry : Except RegistryError Assignment) : Prop :=
  ∃ a t, entry = .ok a ∧ a.name ∈ names ∧ Term.parse a.spec = .ok t

/-- Why an entry is refused. The name is looked up before the text is read. -/
inductive Refused (names : List String) : Except RegistryError Assignment → RegistryError → Prop where
  | malformed {e : RegistryError} : Refused names (.error e) e
  | unknown {a : Assignment} : a.name ∉ names → Refused names (.ok a) .notFound
  | noTerm {a : Assignment} {fault : TermFault} : a.name ∈ names → Term.parse a.spec = .error fault →
      Refused names (.ok a) (.parse fault.toInputError)

/-- The error of the earliest entry that is refused. -/
def FirstRefused (names : List String) (entries : List (Except RegistryError Assignment))
    (e : RegistryError) : Prop :=
  ∃ before entry after, entries = before ++ entry :: after ∧ (∀ b ∈ before, Accepted names b) ∧
    Refused names entry e

variable {r : Registry} {n : String} {f : Failpoint} {entry : Except RegistryError Assignment}
  {entries : List (Except RegistryError Assignment)} {e : RegistryError}

/-! ## The failpoints -/

theorem name_setting (spec : String) (f : Failpoint) : (setting spec f).name = f.name := by
  unfold setting
  split <;> rfl

theorem setting_of_parse {spec : String} {t : Term} (h : Term.parse spec = .ok t) (f : Failpoint) :
    setting spec f = f.install t := by rw [setting, h]

theorem setting_of_fault {spec : String} {fault : TermFault} (h : Term.parse spec = .error fault)
    (f : Failpoint) : setting spec f = f := by rw [setting, h]

theorem failpoints_set (r : Registry) (m spec : String) : (r.set m spec).registry.failpoints =
    r.failpoints.map fun f => if m = f.name.text then setting spec f else f := by
  have hsame : ∀ {change : Failpoint → Failpoint}, (∀ f ∈ r.failpoints, change f = f) →
      r.failpoints = r.failpoints.map change := by
    intro change h
    rw [List.map_congr_left h, List.map_id']
  cases hm : r.find? m with
  | none =>
    rw [set_of_none hm]
    apply hsame
    intro f hf
    have hne : m ≠ f.name.text := by
      rintro rfl
      exact find?_eq_none_iff.1 hm (List.mem_map_of_mem hf)
    exact if_neg hne
  | some g =>
    cases ht : Term.parse spec with
    | ok t =>
      rw [set_of_parse hm ht]
      refine List.map_congr_left fun f _ => ?_
      rw [setting_of_parse ht]
      by_cases hname : m = f.name.text
      · rw [if_pos hname, if_pos (beq_iff_eq.2 hname.symm)]
      · rw [if_neg hname, if_neg fun h => hname (beq_iff_eq.1 h).symm]
    | error fault =>
      rw [set_of_fault hm ht]
      apply hsame
      intro f _
      rw [setting_of_fault ht, ite_self]

/-- After the entries of a bulk text each failpoint is what the entries for its name make of it. -/
theorem failpoints_applyEntries (r : Registry) (entries : List (Except RegistryError Assignment)) :
    (r.applyEntries entries).registry.failpoints =
      r.failpoints.map fun f => settling f.name.text entries f := by
  induction entries generalizing r with
  | nil => exact List.map_id'' (fun _ => rfl) _ |>.symm
  | cons entry entries ih =>
    cases entry with
    | error e => exact ih r
    | ok a =>
      have hstep : (r.applyEntry (.ok a)).registry.failpoints =
          r.failpoints.map fun f => if a.name = f.name.text then setting a.spec f else f :=
        failpoints_set r a.name a.spec
      show ((r.applyEntry (.ok a)).registry.applyEntries entries).registry.failpoints = _
      rw [ih, hstep, List.map_map]
      refine List.map_congr_left fun f _ => ?_
      rw [Function.comp_apply, settling]
      by_cases hname : a.name = f.name.text
      · rw [if_pos hname, if_pos hname.symm, name_setting]
      · rw [if_neg hname, if_neg (Ne.symm hname)]

theorem arms_iff {a : Assignment} : Arms n (.ok a) ↔ a.name = n ∧ ∃ t, Term.parse a.spec = .ok t := by
  constructor
  · rintro ⟨b, t, hb, hn, ht⟩
    obtain rfl := Except.ok.inj hb
    exact ⟨hn, t, ht⟩
  · rintro ⟨hn, t, ht⟩
    exact ⟨a, t, rfl, hn, ht⟩

/-- An entry in front that makes no difference to the failpoint. -/
theorem Settles.cons_of_not_arms {f' : Failpoint} (h : Settles entries f f')
    (he : ¬ Arms f.name.text entry) : Settles (entry :: entries) f f' := by
  cases h with
  | @armed before after a t _ hsplit hname ht hspec hlater =>
    have hsplit' : entry :: entries = (entry :: before) ++ .ok a :: after := congrArg (entry :: ·) hsplit
    exact .armed hsplit' hname ht hspec hlater
  | kept hnone => exact .kept (List.forall_mem_cons.2 ⟨he, hnone⟩)

/-- An entry in front that arms the failpoint counts as long as no later one does. -/
theorem Settles.cons_of_arms {a : Assignment} {t : Term} {f' : Failpoint}
    (h : Settles entries (f.install t) f') (hname : a.name = f.name.text)
    (ht : Term.parse a.spec = .ok t) : Settles (.ok a :: entries) f f' := by
  cases h with
  | @armed before after a' t' _ hsplit hname' ht' hspec hlater =>
    have hsplit' : .ok a :: entries = (.ok a :: before) ++ .ok a' :: after := congrArg (.ok a :: ·) hsplit
    exact .armed hsplit' hname' ht' hspec hlater
  | kept hnone =>
    have hsplit : .ok a :: entries = [] ++ .ok a :: entries := rfl
    exact .armed hsplit hname ht (chainText_of_parse ht).1 hnone

theorem settles_settling (entries : List (Except RegistryError Assignment)) (f : Failpoint) :
    Settles entries f (settling f.name.text entries f) := by
  induction entries generalizing f with
  | nil => exact .kept (by simp)
  | cons entry entries ih =>
    cases entry with
    | error e => exact (ih f).cons_of_not_arms (by rintro ⟨a, t, ha, -⟩; cases ha)
    | ok a =>
      rw [settling]
      by_cases hname : f.name.text = a.name
      · rw [if_pos hname]
        cases ht : Term.parse a.spec with
        | ok t =>
          rw [setting_of_parse ht]
          exact (ih (f.install t)).cons_of_arms hname.symm ht
        | error fault =>
          rw [setting_of_fault ht]
          exact (ih f).cons_of_not_arms (by simp [arms_iff, ht])
      · rw [if_neg hname]
        exact (ih f).cons_of_not_arms fun h => hname (arms_iff.1 h).1.symm

/-- Each failpoint is settled by the last entry that holds a term for its name. -/
theorem settles_applyEntries (r : Registry) (entries : List (Except RegistryError Assignment)) :
    List.Forall₂ (Settles entries) r.failpoints (r.applyEntries entries).registry.failpoints := by
  rw [failpoints_applyEntries, List.forall₂_map_right_iff, List.forall₂_same]
  exact fun f _ => settles_settling entries f

/-! ## The result -/

/-- An entry is carried out or refused, never both. -/
theorem result_applyEntry (r : Registry) (entry : Except RegistryError Assignment) :
    (Accepted r.names entry ∧ (r.applyEntry entry).result = .ok ()) ∨
      ∃ e, Refused r.names entry e ∧ (r.applyEntry entry).result = .error e := by
  cases entry with
  | error e => exact .inr ⟨e, .malformed, rfl⟩
  | ok a =>
    rw [applyEntry]
    cases hf : r.find? a.name with
    | none => exact .inr ⟨_, .unknown (find?_eq_none_iff.1 hf), by rw [set_of_none hf]⟩
    | some f =>
      have hn : a.name ∈ r.names := mem_names_of_find? hf
      cases ht : Term.parse a.spec with
      | ok t => exact .inl ⟨⟨a, t, rfl, hn, ht⟩, by rw [set_of_parse hf ht]⟩
      | error fault => exact .inr ⟨_, .noTerm hn ht, by rw [set_of_fault hf ht]⟩

theorem Refused.not_accepted {names : List String} (h : Refused names entry e) :
    ¬ Accepted names entry := by
  rintro ⟨a, t, rfl, hn, ht⟩
  cases h with
  | unknown hn' => exact hn' hn
  | noTerm _ ht' => simp [ht'] at ht

theorem Refused.unique {names : List String} {e' : RegistryError} (h : Refused names entry e)
    (h' : Refused names entry e') : e = e' := by
  cases h with
  | malformed => cases h'; rfl
  | unknown hn =>
    cases h' with
    | unknown _ => rfl
    | noTerm hn' _ => exact absurd hn' hn
  | noTerm hn ht =>
    cases h' with
    | unknown hn' => exact absurd hn hn'
    | noTerm _ ht' => rw [Except.error.inj (ht.symm.trans ht')]

theorem names_applyEntry (r : Registry) (entry : Except RegistryError Assignment) :
    (r.applyEntry entry).registry.names = r.names := by
  cases entry with
  | error e => rfl
  | ok a => exact names_set r a.name a.spec

/-- The result of the first entry comes before that of the others. -/
theorem result_applyEntries_cons (r : Registry) (entry : Except RegistryError Assignment)
    (entries : List (Except RegistryError Assignment)) : (r.applyEntries (entry :: entries)).result =
      firstError (r.applyEntry entry).result ((r.applyEntry entry).registry.applyEntries entries).result :=
  rfl

theorem result_applyEntries_eq_ok_iff (r : Registry) (entries : List (Except RegistryError Assignment)) :
    (r.applyEntries entries).result = .ok () ↔ ∀ entry ∈ entries, Accepted r.names entry := by
  induction entries generalizing r with
  | nil => simp [applyEntries]
  | cons entry entries ih =>
    rw [result_applyEntries_cons, List.forall_mem_cons]
    rcases result_applyEntry r entry with ⟨haccepted, hresult⟩ | ⟨e, hrefused, hresult⟩
    · have htail := ih (r.applyEntry entry).registry
      rw [names_applyEntry] at htail
      rw [hresult, firstError, htail]
      exact (and_iff_right haccepted).symm
    · rw [hresult, firstError]
      have hnot := hrefused.not_accepted
      simp [hnot]

theorem FirstRefused.cons_iff {names : List String} :
    FirstRefused names (entry :: entries) e ↔
      Refused names entry e ∨ (Accepted names entry ∧ FirstRefused names entries e) := by
  constructor
  · rintro ⟨before, refused, after, hsplit, hbefore, hrefused⟩
    cases before with
    | nil =>
      obtain ⟨rfl, -⟩ := List.cons.inj hsplit
      exact .inl hrefused
    | cons b before =>
      obtain ⟨rfl, rfl⟩ := List.cons.inj hsplit
      obtain ⟨hb, hbefore⟩ := List.forall_mem_cons.1 hbefore
      exact .inr ⟨hb, before, refused, after, rfl, hbefore, hrefused⟩
  · rintro (h | ⟨haccepted, before, refused, after, rfl, hbefore, hrefused⟩)
    · exact ⟨[], entry, entries, rfl, by simp, h⟩
    · exact ⟨entry :: before, refused, after, rfl, List.forall_mem_cons.2 ⟨haccepted, hbefore⟩, hrefused⟩

theorem result_applyEntries_eq_error_iff (r : Registry)
    (entries : List (Except RegistryError Assignment)) (e : RegistryError) :
    (r.applyEntries entries).result = .error e ↔ FirstRefused r.names entries e := by
  induction entries generalizing r with
  | nil => simp [applyEntries, FirstRefused]
  | cons entry entries ih =>
    rw [result_applyEntries_cons, FirstRefused.cons_iff]
    rcases result_applyEntry r entry with ⟨haccepted, hresult⟩ | ⟨e', hrefused, hresult⟩
    · have htail := ih (r.applyEntry entry).registry
      rw [names_applyEntry] at htail
      have hnot : ¬ Refused r.names entry e := fun h => h.not_accepted haccepted
      rw [hresult, firstError, htail]
      simp [hnot, haccepted]
    · rw [hresult, firstError]
      have hnot := hrefused.not_accepted
      constructor
      · intro h
        obtain rfl := Except.error.inj h
        exact .inl hrefused
      · rintro (h | ⟨haccepted, -⟩)
        · rw [hrefused.unique h]
        · exact absurd haccepted hnot

end Registry

end FaultInjection
