import FaultInjection.Injection
import FaultInjection.Proofs.Registry.Basic

/-!
# An injection is one hit

An injection records one hit and enacts the action that the hit selects, in code that runs as a task
(`inject_eq`) and in code that blocks its thread (`injectBlocking_eq`); an evaluation records one hit and says
whether there is anything to enact (`evaluate_eq`). How an injection ends is settled
by the action alone: it returns for `ret`, panics for `panic`, and goes on for every other action. A
failpoint that is unknown or disabled selects nothing, and only the first of the two is warned of.
-/

namespace FaultInjection

namespace Action

/-- The action ends the instrumented call early. -/
def Returns (a : Action) : Prop := ∃ value, a = .ret value

/-- The action makes the instrumented call fail. -/
def Panics (a : Action) : Prop := ∃ message, a = .panic message

theorem isOff_iff {a : Action} : a.isOff = true ↔ a = .off := by
  cases a <;> simp [isOff]

end Action

namespace Registry

variable {r : Registry} {n : String} {d : Draws} {f : Failpoint} {a : Action}

/-! ## Outcomes -/

/-- The message with which a panic ends, configured or not. -/
def panicMessage (n : String) (message : Option String) : String :=
  message.getD ("failpoint " ++ n ++ " panicked")

theorem outcomeOf_panic (n : String) (message : Option String) :
    outcomeOf n (.panic message) = .panic (panicMessage n message) := by
  cases message <;> rfl

theorem outcomeOf_eq_ret_iff {value : Option Literal} : outcomeOf n a = .ret value ↔ a = .ret value := by
  cases a with
  | panic message => simp [outcomeOf_panic]
  | _ => simp [outcomeOf]

theorem outcomeOf_eq_panic_iff {text : String} :
    outcomeOf n a = .panic text ↔ ∃ message, a = .panic message ∧ text = panicMessage n message := by
  cases a with
  | panic message => simp [outcomeOf_panic, eq_comm]
  | _ => simp [outcomeOf]

theorem outcomeOf_eq_continue_iff : outcomeOf n a = .continue ↔ ¬ a.Returns ∧ ¬ a.Panics := by
  cases a with
  | panic message => simp [outcomeOf_panic, Action.Panics]
  | _ => simp [outcomeOf, Action.Returns, Action.Panics]

/-! ## Hits -/

/-- The action that a hit selects. A failpoint that is unknown or disabled selects `off`. -/
def selected (r : Registry) (n : String) (d : Draws) : Action :=
  match (r.hit n d).1 with
  | .ok a => a
  | .error _ => .off

theorem selected_of_ok (h : (r.hit n d).1 = .ok a) : r.selected n d = a := by rw [selected, h]

theorem selected_of_error {e : RegistryError} (h : (r.hit n d).1 = .error e) : r.selected n d = .off := by
  rw [selected, h]

/-- An action other than `off` is selected by a hit that was recorded. -/
theorem selected_eq_iff (ha : a ≠ .off) : r.selected n d = a ↔ (r.hit n d).1 = .ok a := by
  cases h : (r.hit n d).1 with
  | ok a' => rw [selected_of_ok h, Except.ok.injEq]
  | error e =>
    rw [selected_of_error h]
    exact ⟨fun hoff => absurd hoff.symm ha, nofun⟩

/-- A change that makes no difference to the failpoint under a name makes none to a registry in which the name
is given once. -/
theorem modify_eq_self (hr : r.names.Nodup) (h : r.find? n = some f) : (r.modify n fun _ => f) = r := by
  have hsame : ∀ g ∈ r.failpoints, (if g.name.text == n then f else g) = g := by
    intro g hg
    split
    · next hname =>
      have hfound := find?_of_mem hr hg
      rw [beq_iff_eq.1 hname, h] at hfound
      exact Option.some.inj hfound
    · rfl
  rw [modify, List.map_congr_left hsame, List.map_id']

/-- Nothing becomes of a registry by a hit on a failpoint without a term. -/
theorem hit_of_idle (hr : r.names.Nodup) (h : ∀ f, r.find? n = some f → f.installed = none) (d : Draws) :
    ∃ e, r.hit n d = (.error e, r, d) := by
  cases hf : r.find? n with
  | none => exact ⟨_, hit_of_none hf d⟩
  | some f =>
    refine ⟨.disabled, ?_⟩
    rw [hit_of_some hf, Failpoint.hit_of_none (h f hf), modify_eq_self hr hf]

/-! ## Evaluations and injections -/

/-- The warning that a hit gives rise to. -/
def warnings (r : Registry) (n : String) : List Event :=
  if n ∈ r.names then [] else [Event.unregistered n]

/-- What an action logs when it is enacted. -/
def enacted (n : String) (a : Action) : List Event :=
  if a.isOff then [] else Event.fired n a.kind :: eventsOf n a

/-- The pause that an action makes. -/
def pausesOf (waiting : Waiting) : Action → List Pause
  | .sleep duration => [⟨waiting, duration⟩]
  | _ => []

/-- A hit fails as on an unknown name exactly for a name that is not registered. -/
theorem hit_eq_notFound_iff : (r.hit n d).1 = .error .notFound ↔ n ∉ r.names := by
  rw [← find?_eq_none_iff]
  cases hf : r.find? n with
  | none => simp [hit_of_none hf]
  | some f =>
    rw [hit_of_some hf]
    cases ht : f.installed with
    | none => simp [Failpoint.hit_of_none ht]
    | some t => simp [Failpoint.hit_of_some ht]

theorem evaluate_eq (r : Registry) (n : String) (d : Draws) : r.evaluate n d =
    ⟨⟨!(r.selected n d).isOff, r.selected n d⟩, (r.hit n d).2.1, r.warnings n, (r.hit n d).2.2⟩ := by
  have hwarn := hit_eq_notFound_iff (r := r) (n := n) (d := d)
  unfold evaluate selected warnings
  generalize r.hit n d = answered at hwarn ⊢
  obtain ⟨x, r', d'⟩ := answered
  cases x with
  | ok a =>
    have hn : n ∈ r.names := by simpa using hwarn
    rw [if_pos hn]
  | error e =>
    by_cases he : e = .notFound
    · subst he
      rw [if_neg (hwarn.1 rfl)]
      rfl
    · have hn : n ∈ r.names := by simpa [he] using hwarn
      rw [if_pos hn]
      cases e with
      | notFound => exact absurd rfl he
      | _ => rfl

/-- Whatever it selects and however it ends, an injection leaves the registry and the draws as a hit does. -/
theorem inject_eq (r : Registry) (n : String) (d : Draws) : r.inject n d =
    ⟨outcomeOf n (r.selected n d), (r.hit n d).2.1, r.warnings n ++ enacted n (r.selected n d),
      pausesOf .suspended (r.selected n d), (r.hit n d).2.2⟩ := by
  rw [inject, evaluate_eq]
  cases r.selected n d <;> simp [Action.isOff, outcomeOf, enacted, eventsOf, pausesOf]

/-- An injection that may block leaves the same, but for how its pause is spent. -/
theorem injectBlocking_eq (r : Registry) (n : String) (d : Draws) : r.injectBlocking n d =
    ⟨outcomeOf n (r.selected n d), (r.hit n d).2.1, r.warnings n ++ enacted n (r.selected n d),
      pausesOf .blocked (r.selected n d), (r.hit n d).2.2⟩ := by
  rw [injectBlocking, evaluate_eq]
  cases r.selected n d <;> simp [Action.isOff, outcomeOf, enacted, eventsOf, pausesOf]

/-! ## What can be seen of one -/

theorem level_of_mem_enacted {e : Event} (h : e ∈ enacted n a) : e.level ≠ .warn := by
  unfold enacted at h
  split at h
  · cases h
  · rcases List.mem_cons.1 h with rfl | h
    · simp [Event.fired]
    · unfold eventsOf at h
      split at h
      · obtain rfl := List.mem_singleton.1 h
        simp [Event.printed]
      · obtain rfl := List.mem_singleton.1 h
        simp [Event.printed]
      · cases h

theorem warned_iff (r : Registry) (n : String) (a : Action) :
    (∃ e ∈ r.warnings n ++ enacted n a, e.level = .warn) ↔ n ∉ r.names := by
  unfold warnings
  constructor
  · rintro ⟨e, he, hlevel⟩ hn
    rw [if_pos hn, List.nil_append] at he
    exact level_of_mem_enacted he hlevel
  · intro hn
    rw [if_neg hn]
    exact ⟨Event.unregistered n, List.mem_append_left _ (List.mem_singleton_self _), rfl⟩

end Registry

end FaultInjection
