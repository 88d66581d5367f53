import FaultInjection.Proofs.Registry.History
import Mathlib.Data.List.Induction

/-!
# Answers and history

`answers_follow_history` reads every answer about a name off the history of that name, after any
operations on a new registry. A name has no term before the first one is installed, and none after a
removal (`Quiet`); otherwise it has the text that was installed last, and has been hit as often as
its history has hits behind that.
-/

namespace FaultInjection

open Decimal

namespace Registry

/-- How a registry answers about a name that it does not have. -/
structure AnswersNotFound (r : Registry) (n : String) : Prop where
  set : ∀ spec, (r.set n spec).result = .error .notFound
  deactivate : (r.deactivate n).result = .error .notFound
  get : r.get n = .error .notFound
  term : r.term n = .error .notFound
  count : r.count n = .error .notFound
  hit : ∀ d, (r.hit n d).1 = .error .notFound
  list : ∀ text, (n, text) ∉ r.list

/-- How a registry answers calls that change a name that it has. -/
structure AnswersFound (r : Registry) (n : String) : Prop where
  set : ∀ spec, (r.set n spec).result =
    match Term.parse spec with
    | .ok _ => .ok ()
    | .error fault => .error (.parse fault.toInputError)
  deactivate : (r.deactivate n).result = .ok ()

/-- How a registry answers about a name without a term. -/
structure AnswersDisabled (r : Registry) (n : String) : Prop where
  get : r.get n = .ok ⟨n, false, "", 0⟩
  term : r.term n = .error .disabled
  count : r.count n = .error .disabled
  hit : ∀ d, (r.hit n d).1 = .error .disabled
  list : r.list.filter (·.1 == n) = [(n, "")]

/-- The action of the hit that comes after `k` others, on a fresh start. -/
def freshAction (t : Term) (k : Nat) (d : Draws) : Action :=
  ((Position.walk t k (Position.start t) d).1.advance t (Position.walk t k (Position.start t) d).2).1

/-- How a registry answers about a name with a term, after hits that took these draws. The next hit is
that of a fresh start on the same draws, with those that are left behind them. -/
structure AnswersArmed (r : Registry) (n spec : String) (hits : List (List Binary64)) : Prop where
  get : r.get n = .ok ⟨n, true, spec, hits.length⟩
  term : r.term n = .ok spec
  count : r.count n = .ok hits.length
  hit : ∃ t, Term.parse spec = .ok t ∧
    ∀ d, (r.hit n d).1 = .ok (freshAction t hits.length (Draws.prepend hits.flatten d))
  list : r.list.filter (·.1 == n) = [(n, spec)]

end Registry

namespace Failpoint

variable {f : Failpoint}

theorem snapshot_of_none (h : f.installed = none) : f.snapshot = ⟨f.name.text, false, "", 0⟩ := by
  unfold snapshot
  rw [h]

theorem snapshot_of_some {t : Term} (h : f.installed = some t) :
    f.snapshot = ⟨f.name.text, true, t.display, f.hits⟩ := by
  unfold snapshot
  rw [h]

theorem term_of_none (h : f.installed = none) : f.term = .error .disabled := by
  unfold term
  rw [h]

theorem term_of_some {t : Term} (h : f.installed = some t) : f.term = .ok t.display := by
  unfold term
  rw [h]

theorem count_of_none (h : f.installed = none) : f.count = .error .disabled := by
  unfold count
  rw [h]

theorem count_of_some {t : Term} (h : f.installed = some t) : f.count = .ok f.hits := by
  unfold count
  rw [h]

end Failpoint

namespace Registry

variable {r : Registry} {n : String} {f : Failpoint}

theorem answersNotFound (h : n ∉ r.names) : r.AnswersNotFound n := by
  have hnone := find?_eq_none_iff.2 h
  refine ⟨?_, ?_, ?_, ?_, ?_, ?_, ?_⟩
  · exact fun spec => by rw [set_of_none hnone]
  · rw [deactivate_of_none hnone]
  · rw [get, lookup_of_none hnone]
    rfl
  · rw [term, lookup_of_none hnone]
    rfl
  · rw [count, lookup_of_none hnone]
    rfl
  · exact fun d => by rw [hit_of_none hnone]
  · intro text hmem
    rw [names_eq_map_list] at h
    exact h (List.mem_map.2 ⟨_, hmem, rfl⟩)

theorem answersFound (h : r.find? n = some f) : r.AnswersFound n := by
  refine ⟨fun spec => ?_, by rw [deactivate_of_some h]⟩
  cases ht : Term.parse spec with
  | ok t => rw [set_of_parse h ht]
  | error fault => rw [set_of_fault h ht]

theorem answersDisabled (hr : r.names.Nodup) (h : r.find? n = some f) (hf : Standing.disabled.Fits f) :
    r.AnswersDisabled n := by
  have hnone : f.installed = none := hf
  refine ⟨?_, ?_, ?_, fun d => ?_, ?_⟩
  · unfold get
    rw [lookup_of_some h, Except.map, Failpoint.snapshot_of_none hnone, name_of_find? h]
  · unfold term
    rw [lookup_of_some h, Except.bind, Failpoint.term_of_none hnone]
  · unfold count
    rw [lookup_of_some h, Except.bind, Failpoint.count_of_none hnone]
  · rw [hit_of_some h, Failpoint.hit_of_none hnone]
  · rw [filter_list hr h, Failpoint.termText, hnone]

theorem answersArmed (hr : r.names.Nodup) (h : r.find? n = some f) {spec : String}
    {hits : List (List Binary64)} (hf : (Standing.armed spec hits).Fits f) :
    r.AnswersArmed n spec hits := by
  obtain ⟨t, ht, hinstalled, hcount, hreplay⟩ := hf
  have hsource : t.display = spec := (chainText_of_parse ht).1
  refine ⟨?_, ?_, ?_, ⟨t, ht, fun d => ?_⟩, ?_⟩
  · unfold get
    rw [lookup_of_some h, Except.map, Failpoint.snapshot_of_some hinstalled, name_of_find? h, hsource, hcount]
  · unfold term
    rw [lookup_of_some h, Except.bind, Failpoint.term_of_some hinstalled, hsource]
  · unfold count
    rw [lookup_of_some h, Except.bind, Failpoint.count_of_some hinstalled, hcount]
  · obtain ⟨hp, hahead⟩ := hreplay d
    rw [hit_of_some h, Failpoint.hit_of_some hinstalled, freshAction, hp]
    exact congrArg _ (Position.advance_congr hahead.symm).1
  · rw [filter_list hr h, Failpoint.termText, hinstalled]
    exact congrArg (fun text => [(n, text)]) hsource

end Registry

/-- A history that leaves no term: none was installed, or the last change removed it. -/
def Quiet (past : List Happening) : Prop :=
  (∀ spec, .installed spec ∉ past) ∨
    ∃ (before : List Happening) (hits : List (List Binary64)), past = before ++ .cleared :: hits.map .hit

/-- A history that ends with the install of `spec` and hits that took these draws. -/
def LastInstalled (past : List Happening) (spec : String) (hits : List (List Binary64)) : Prop :=
  ∃ before : List Happening, past = before ++ .installed spec :: hits.map .hit

namespace Standing

theorem foldl_hits_disabled (hits : List (List Binary64)) :
    (hits.map Happening.hit).foldl next .disabled = .disabled := by
  induction hits with
  | nil => rfl
  | cons drawn hits ih => exact ih

theorem foldl_hits_armed (spec : String) (hits since : List (List Binary64)) :
    (since.map Happening.hit).foldl next (.armed spec hits) = .armed spec (hits ++ since) := by
  induction since generalizing hits with
  | nil => rw [List.append_nil]; rfl
  | cons drawn since ih => exact (ih (hits ++ [drawn])).trans (by rw [List.append_assoc]; rfl)

theorem ofHistory_of_lastInstalled {past : List Happening} {spec : String} {hits : List (List Binary64)}
    (h : LastInstalled past spec hits) : ofHistory past = .armed spec hits := by
  obtain ⟨before, rfl⟩ := h
  rw [ofHistory, List.foldl_append, List.foldl_cons]
  exact foldl_hits_armed spec [] hits

theorem ofHistory_of_not_installed {past : List Happening} (h : ∀ spec, .installed spec ∉ past) :
    ofHistory past = .disabled := by
  unfold ofHistory
  induction past with
  | nil => rfl
  | cons happening past ih =>
    have htail := ih fun spec hs => h spec (List.mem_cons_of_mem _ hs)
    cases happening with
    | installed spec => exact absurd (List.mem_cons_self ..) (h spec)
    | cleared => exact htail
    | hit drawn => exact htail

theorem ofHistory_of_quiet {past : List Happening} (h : Quiet past) : ofHistory past = .disabled := by
  rcases h with h | ⟨before, hits, rfl⟩
  · exact ofHistory_of_not_installed h
  · rw [ofHistory, List.foldl_append, List.foldl_cons]
    exact foldl_hits_disabled hits

/-- A history that is not quiet ends with an install and the hits since. -/
theorem quiet_or_lastInstalled (past : List Happening) :
    Quiet past ∨ ∃ spec hits, LastInstalled past spec hits := by
  induction past using List.reverseRecOn with
  | nil => exact .inl (.inl (by simp))
  | append_singleton past happening ih =>
    cases happening with
    | installed spec => exact .inr ⟨spec, [], past, rfl⟩
    | cleared => exact .inl (.inr ⟨past, [], rfl⟩)
    | hit drawn =>
      rcases ih with (h | ⟨before, hits, rfl⟩) | ⟨spec, hits, before, rfl⟩
      · exact .inl (.inl fun spec hs => by simp [h spec] at hs)
      · exact .inl (.inr ⟨before, hits ++ [drawn], by simp⟩)
      · exact .inr ⟨spec, hits ++ [drawn], before, by simp⟩

end Standing

open Session in
/-- After any operations on a new registry, with any draws, what it answers about a name follows from
the history of that name: it has no such name, or no term for it, or the text installed last, with the
hits since. There is no other case. -/
theorem answers_follow_history (texts : List String) (r : Registry) (h : Registry.ofNames texts = .ok r)
    (d : Draws) (operations : List Operation) (n : String) :
    (n ∉ texts → (run ⟨r, d⟩ operations).registry.AnswersNotFound n) ∧
    (n ∈ texts → (run ⟨r, d⟩ operations).registry.AnswersFound n ∧
      (Quiet (history n ⟨r, d⟩ operations) → (run ⟨r, d⟩ operations).registry.AnswersDisabled n) ∧
      (∀ spec hits, LastInstalled (history n ⟨r, d⟩ operations) spec hits →
        (run ⟨r, d⟩ operations).registry.AnswersArmed n spec hits) ∧
      (Quiet (history n ⟨r, d⟩ operations) ∨
        ∃ spec hits, LastInstalled (history n ⟨r, d⟩ operations) spec hits)) := by
  obtain ⟨hfresh, hperm⟩ := Registry.ofNames_spec h
  have hnames : (run ⟨r, d⟩ operations).registry.names = r.names := names_run _ operations
  refine ⟨fun hn => ?_, fun hn => ?_⟩
  · apply Registry.answersNotFound
    rw [hnames]
    exact fun hmem => hn (hperm.mem_iff.1 hmem)
  · have hnodup : (run ⟨r, d⟩ operations).registry.names.Nodup := by rw [hnames]; exact hfresh.nodup
    obtain ⟨f, hf, hfits⟩ := Standing.exists_fits_run hfresh d operations (hperm.mem_iff.2 hn)
    refine ⟨Registry.answersFound hf, fun hquiet => ?_, fun spec hits hlast => ?_,
      Standing.quiet_or_lastInstalled _⟩
    · have hst : Standing.ofHistory _ = .disabled := Standing.ofHistory_of_quiet hquiet
      exact Registry.answersDisabled hnodup hf (hst ▸ hfits)
    · have hst : Standing.ofHistory _ = .armed spec hits := Standing.ofHistory_of_lastInstalled hlast
      exact Registry.answersArmed hnodup hf (hst ▸ hfits)

/-- A new registry with two names. -/
def twoNames : Registry := ⟨[.disabled ⟨"a", by decide⟩, .disabled ⟨"b", by decide⟩]⟩

/-- A bulk text with one text that is no term installs the other, and a hit takes one draw. -/
theorem answers_after_bulk_set_and_hit :
    Registry.ofNames ["b", "a"] = .ok twoNames ∧
      (Session.run ⟨twoNames, .constant .zero⟩
        [.assign "b=oops;a=50%print", .hit "b", .hit "a"]).registry.AnswersArmed "a" "50%print" [[.zero]] := by
  have hnew : Registry.ofNames ["b", "a"] = .ok twoNames := by decide +kernel
  have hlast : LastInstalled (Session.history "a" ⟨twoNames, .constant .zero⟩
      [.assign "b=oops;a=50%print", .hit "b", .hit "a"]) "50%print" [[.zero]] := ⟨[], by decide +kernel⟩
  exact ⟨hnew, ((answers_follow_history _ _ hnew _ _ "a").2 (by decide)).2.2.1 _ _ hlast⟩

end FaultInjection
