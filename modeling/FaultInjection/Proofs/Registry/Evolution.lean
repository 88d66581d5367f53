import FaultInjection.Demo
import FaultInjection.Proofs.Registry.Injection

/-!
# How a registry evolves

Whatever is asked of a registry, what becomes of it is a row of few steps: a term is installed, a
failpoint is cleared, or a hit is recorded (`Step`). The first two leave an entry in the log and nothing
else does, so the log of an evolution tells the installs and the removals in it (`Evolves.installs`,
`Evolves.removes`). Operations, injections and calls of demonstration functions are evolutions: `evolves_set`
and its likes, and `leads_call`.
-/

namespace FaultInjection

namespace Event

/-- An entry that tells of an install or of a removal. -/
def IsEntry (e : Event) : Prop := (∃ n spec, e = enabled n spec) ∨ ∃ n, e = disabled n

theorem IsEntry.shape {e : Event} (h : e.IsEntry) :
    e.level = .info ∧ e.fields.head?.map Prod.fst = some "name" := by
  rcases h with ⟨n, spec, rfl⟩ | ⟨n, rfl⟩ <;> exact ⟨rfl, rfl⟩

theorem not_isEntry_of_level {e : Event} (h : e.level ≠ .info) : ¬ e.IsEntry := fun he => h he.shape.1

theorem not_isEntry_of_field {e : Event} (h : e.fields.head?.map Prod.fst ≠ some "name") : ¬ e.IsEntry :=
  fun he => h he.shape.2

/-- No message can make a printed event an entry, whose fields are named otherwise. -/
theorem not_isEntry_printed (n message : String) : ¬ (printed n message).IsEntry :=
  not_isEntry_of_field (by simp [printed])

end Event

namespace Registry

variable {r r' r'' : Registry} {es es' : List Event} {n spec : String} {f : Failpoint} {d : Draws}

/-- One step of a registry, with what is logged at it. -/
inductive Step : Registry → List Event → Registry → Prop where
  | install {r : Registry} {n spec : String} {f : Failpoint} {t : Term} : r.find? n = some f →
      Term.parse spec = .ok t → Step r [Event.enabled n spec] (r.modify n (·.install t))
  | clear {r : Registry} {n : String} {f : Failpoint} : r.find? n = some f →
      Step r [Event.disabled n] (r.modify n Failpoint.clear)
  | hit {r : Registry} {n : String} {f : Failpoint} (d : Draws) : r.find? n = some f →
      Step r [] (r.modify n fun _ => (f.hit d).2.1)
  | remark {r : Registry} {e : Event} : ¬ e.IsEntry → Step r [e] r

theorem Step.eq_singleton {e : Event} (h : Step r es r') (hmem : e ∈ es) : es = [e] := by
  cases h with
  | hit _ _ => cases hmem
  | _ => rw [List.mem_singleton.1 hmem]

theorem Step.install_of_enabled (h : Step r [Event.enabled n spec] r') :
    ∃ f t, r.find? n = some f ∧ Term.parse spec = .ok t ∧ r' = r.modify n (·.install t) := by
  generalize he : [Event.enabled n spec] = logged at h
  cases h with
  | @install m spec' f t hf ht =>
    obtain ⟨rfl, rfl⟩ : n = m ∧ spec = spec' := by simpa [Event.enabled] using he
    exact ⟨f, t, hf, ht, rfl⟩
  | clear _ => simp [Event.enabled, Event.disabled] at he
  | hit _ _ => cases he
  | remark hno =>
    obtain rfl := List.singleton_inj.1 he
    exact absurd (.inl ⟨n, spec, rfl⟩) hno

theorem Step.clear_of_disabled (h : Step r [Event.disabled n] r') :
    ∃ f, r.find? n = some f ∧ r' = r.modify n Failpoint.clear := by
  generalize he : [Event.disabled n] = logged at h
  cases h with
  | install _ _ => simp [Event.enabled, Event.disabled] at he
  | @clear m f hf =>
    obtain rfl : n = m := by simpa [Event.disabled] using he
    exact ⟨f, hf, rfl⟩
  | hit _ _ => cases he
  | remark hno =>
    obtain rfl := List.singleton_inj.1 he
    exact absurd (.inr ⟨n, rfl⟩) hno

/-- Any number of steps, with all that is logged. -/
inductive Evolves : Registry → List Event → Registry → Prop where
  | refl (r : Registry) : Evolves r [] r
  | step {r r' r'' : Registry} {es es' : List Event} : Step r es r' → Evolves r' es' r'' →
      Evolves r (es ++ es') r''

theorem Step.evolves (h : Step r es r') : Evolves r es r' := by
  simpa using Evolves.step h (.refl r')

theorem Evolves.trans (h : Evolves r es r') (h' : Evolves r' es' r'') : Evolves r (es ++ es') r'' := by
  induction h with
  | refl => exact h'
  | step hstep _ ih =>
    rw [List.append_assoc]
    exact .step hstep (ih h')

theorem evolves_remarks (h : ∀ e ∈ es, ¬ e.IsEntry) : Evolves r es r := by
  induction es with
  | nil => exact .refl r
  | cons e es ih =>
    obtain ⟨he, hes⟩ := List.forall_mem_cons.1 h
    exact .step (.remark he) (ih hes)

/-- No step changes the names. -/
theorem Step.names (h : Step r es r') : r'.names = r.names := by
  cases h with
  | install _ _ => exact names_modify (keepsName_install _)
  | clear _ => exact names_modify keepsName_clear
  | hit d hf => exact names_modify (keepsName_hit hf d)
  | remark _ => rfl

theorem Evolves.names (h : Evolves r es r') : r'.names = r.names := by
  induction h with
  | refl => rfl
  | step hstep _ ih => exact ih.trans hstep.names

/-- What is logged in an evolution is logged at one of its steps. -/
theorem Evolves.exists_step {e : Event} (h : Evolves r es r') (hmem : e ∈ es) :
    ∃ before after r₀ r₁, es = before ++ e :: after ∧ Evolves r before r₀ ∧ Step r₀ [e] r₁ ∧
      Evolves r₁ after r' := by
  induction h with
  | refl => cases hmem
  | @step r r₁ _ es es' hstep hrest ih =>
    -- If the event was logged more than once, the last of its steps will do.
    by_cases hlater : e ∈ es'
    · obtain ⟨before, after, r₀, r₂, rfl, hbefore, hentry, hafter⟩ := ih hlater
      exact ⟨es ++ before, after, r₀, r₂, by simp, .step hstep hbefore, hentry, hafter⟩
    · have hnow : e ∈ es := (List.mem_append.1 hmem).resolve_right hlater
      obtain rfl : es = [e] := hstep.eq_singleton hnow
      exact ⟨[], es', r, r₁, rfl, .refl r, hstep, hrest⟩

/-- Somewhere in an evolution the term that `spec` denotes was installed under `n`. -/
def Installs (r : Registry) (es : List Event) (r' : Registry) (n spec : String) : Prop :=
  ∃ before after r₀ f t, es = before ++ Event.enabled n spec :: after ∧ Evolves r before r₀ ∧
    r₀.find? n = some f ∧ Term.parse spec = .ok t ∧ Evolves (r₀.modify n (·.install t)) after r'

/-- Somewhere in an evolution the failpoint under `n` was cleared. -/
def Removes (r : Registry) (es : List Event) (r' : Registry) (n : String) : Prop :=
  ∃ before after r₀ f, es = before ++ Event.disabled n :: after ∧ Evolves r before r₀ ∧
    r₀.find? n = some f ∧ Evolves (r₀.modify n Failpoint.clear) after r'

/-- What is logged as an install is one. -/
theorem Evolves.installs (h : Evolves r es r') (hmem : Event.enabled n spec ∈ es) :
    r.Installs es r' n spec := by
  obtain ⟨before, after, r₀, r₁, rfl, hbefore, hstep, hafter⟩ := h.exists_step hmem
  obtain ⟨f, t, hf, ht, rfl⟩ := hstep.install_of_enabled
  exact ⟨before, after, r₀, f, t, rfl, hbefore, hf, ht, hafter⟩

/-- What is logged as a removal is one. -/
theorem Evolves.removes (h : Evolves r es r') (hmem : Event.disabled n ∈ es) : r.Removes es r' n := by
  obtain ⟨before, after, r₀, r₁, rfl, hbefore, hstep, hafter⟩ := h.exists_step hmem
  obtain ⟨f, hf, rfl⟩ := hstep.clear_of_disabled
  exact ⟨before, after, r₀, f, rfl, hbefore, hf, hafter⟩

/-! ## Operations -/

theorem evolves_set (r : Registry) (n spec : String) :
    Evolves r (r.set n spec).events (r.set n spec).registry := by
  cases hf : r.find? n with
  | none =>
    rw [set_of_none hf]
    exact .refl r
  | some f =>
    cases ht : Term.parse spec with
    | ok t =>
      rw [set_of_parse hf ht]
      exact (Step.install hf ht).evolves
    | error fault =>
      rw [set_of_fault hf ht]
      exact (Step.remark (Event.not_isEntry_of_level (by simp [Event.rejected]))).evolves

theorem evolves_deactivate (r : Registry) (n : String) :
    Evolves r (r.deactivate n).events (r.deactivate n).registry := by
  cases hf : r.find? n with
  | none =>
    rw [deactivate_of_none hf]
    exact .refl r
  | some f =>
    rw [deactivate_of_some hf]
    exact (Step.clear hf).evolves

theorem evolves_applyEntries (r : Registry) (entries : List (Except RegistryError Assignment)) :
    Evolves r (r.applyEntries entries).events (r.applyEntries entries).registry := by
  induction entries generalizing r with
  | nil => exact .refl r
  | cons entry entries ih =>
    have hhead : Evolves r (r.applyEntry entry).events (r.applyEntry entry).registry := by
      cases entry with
      | error e => exact .refl r
      | ok a => exact evolves_set r a.name a.spec
    exact hhead.trans (ih _)

theorem evolves_activate (r : Registry) (body : String) :
    Evolves r (r.activate body).events (r.activate body).registry := by
  have hassign : Evolves r (r.assign body).events (r.assign body).registry := evolves_applyEntries r _
  have hopening : ¬ (Event.activating body).IsEntry :=
    Event.not_isEntry_of_field (by simp [Event.activating])
  have hclosing : ∀ e : RegistryError, ¬ (Event.activationFailed e.message).IsEntry := fun _ =>
    Event.not_isEntry_of_level (by simp [Event.activationFailed])
  unfold activate
  split
  · exact .refl r
  · refine (Step.remark hopening).evolves.trans (hassign.trans (evolves_remarks fun e he => ?_))
    split at he
    · obtain rfl := List.mem_singleton.1 he
      exact hclosing _
    · cases he

theorem evolves_hit (r : Registry) (n : String) (d : Draws) : Evolves r [] (r.hit n d).2.1 := by
  cases hf : r.find? n with
  | none =>
    rw [hit_of_none hf]
    exact .refl r
  | some f =>
    rw [hit_of_some hf]
    exact (Step.hit d hf).evolves

/-! ## Injections -/

theorem not_isEntry_of_mem_warnings {e : Event} (he : e ∈ r.warnings n) : ¬ e.IsEntry := by
  unfold warnings at he
  split at he
  · cases he
  · obtain rfl := List.mem_singleton.1 he
    exact Event.not_isEntry_of_level (by simp [Event.unregistered])

theorem not_isEntry_of_mem_eventsOf {a : Action} {e : Event} (he : e ∈ eventsOf n a) : ¬ e.IsEntry := by
  unfold eventsOf at he
  split at he
  · obtain rfl := List.mem_singleton.1 he
    exact Event.not_isEntry_printed _ _
  · obtain rfl := List.mem_singleton.1 he
    exact Event.not_isEntry_printed _ _
  · cases he

theorem not_isEntry_of_mem_enacted {a : Action} {e : Event} (he : e ∈ enacted n a) : ¬ e.IsEntry := by
  unfold enacted at he
  split at he
  · cases he
  · rcases List.mem_cons.1 he with rfl | he
    · exact Event.not_isEntry_of_level (by simp [Event.fired])
    · exact not_isEntry_of_mem_eventsOf he

theorem evolves_evaluate (r : Registry) (n : String) (d : Draws) :
    Evolves r (r.evaluate n d).events (r.evaluate n d).registry := by
  rw [evaluate_eq]
  exact (evolves_hit r n d).trans (evolves_remarks fun _ => not_isEntry_of_mem_warnings)

/-- What is enacted after a hit is logged and leaves the registry as the hit does. -/
theorem evolves_enacted (r : Registry) (n : String) (d : Draws) (a : Action) :
    Evolves r (r.warnings n ++ enacted n a) (r.hit n d).2.1 :=
  (evolves_hit r n d).trans (evolves_remarks fun _ he =>
    (List.mem_append.1 he).elim not_isEntry_of_mem_warnings not_isEntry_of_mem_enacted)

/-- An injection evolves a registry as its hit does, also where it panics. -/
theorem evolves_inject (r : Registry) (n : String) (d : Draws) :
    Evolves r (r.inject n d).events (r.inject n d).registry := by
  rw [inject_eq]
  exact evolves_enacted r n d _

theorem evolves_injectBlocking (r : Registry) (n : String) (d : Draws) :
    Evolves r (r.injectBlocking n d).events (r.injectBlocking n d).registry := by
  rw [injectBlocking_eq]
  exact evolves_enacted r n d _

end Registry

/-! ## Calls of demonstration functions -/

namespace Trail

/-- The registry of the second trail evolved from that of the first, with what was added to the log. -/
def Leads (t t' : Trail) : Prop := ∃ es, t.registry.Evolves es t'.registry ∧ t'.events = t.events ++ es

variable {t t' t'' : Trail}

theorem Leads.refl (t : Trail) : t.Leads t := ⟨[], .refl _, (List.append_nil _).symm⟩

theorem Leads.trans (h : t.Leads t') (h' : t'.Leads t'') : t.Leads t'' := by
  obtain ⟨es, hev, hes⟩ := h
  obtain ⟨es', hev', hes'⟩ := h'
  exact ⟨es ++ es', hev.trans hev', by rw [hes', hes, List.append_assoc]⟩

theorem leads_inject (t : Trail) (n : String) : t.Leads (t.inject n).2 :=
  ⟨_, Registry.evolves_inject t.registry n t.draws, rfl⟩

end Trail

namespace DemoFunction

theorem leads_innerLoop (hits : Nat) (t : Trail) : t.Leads (innerLoop hits t).2.2 := by
  induction hits generalizing t with
  | zero => exact .refl t
  | succ hits ih =>
    have hinject := t.leads_inject labels.failpoint
    unfold innerLoop
    split
    · next h => simpa [h] using hinject
    · next h => simpa [h] using hinject
    · next h =>
      rw [h] at hinject
      exact hinject.trans (ih _)

theorem leads_outerLoop (n : Nat) (t : Trail) : t.Leads (outerLoop n t).2.2 := by
  induction n generalizing t with
  | zero => exact .refl t
  | succ n ih =>
    have hround := leads_innerLoop rounds t
    unfold outerLoop
    split
    · next h => simpa [h] using hround
    · next h =>
      rw [h] at hround
      exact hround.trans (ih _)

/-- A call evolves the registry, whether it gives a value or panics. -/
theorem leads_call (f : DemoFunction) (t : Trail) : t.Leads (f.call t).2 := by
  cases f with
  | plain =>
    have hinject := t.leads_inject plain.failpoint
    rw [call]
    split <;> next h => simpa [h] using hinject
  | oneLine =>
    have hinject := t.leads_inject oneLine.failpoint
    rw [call]
    split <;> next h => simpa [h] using hinject
  | labels =>
    have hloop := leads_outerLoop rounds t
    rw [call]
    split <;> next h => simpa [h] using hloop

end DemoFunction

end FaultInjection
