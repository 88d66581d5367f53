import FaultInjection.Demo
import FaultInjection.Proofs.Registry.Injection
import Mathlib.Algebra.Ring.Nat

/-!
# Successive hits on one name

`Registry.hits` repeats hits on a name, and `Registry.selection` lists the actions that they select. They are
counted under the installed term, which stays, and nothing else becomes of a registry (`HitOnly`). A row of
injections under a name is the same hits, with what their actions log and how long they pause: `Accounts`
holds of one injection (`accounts_inject`), and of one row behind another (`Accounts.trans`).
-/

namespace FaultInjection

namespace Registry

variable {r : Registry} {n : String} {d : Draws} {f : Failpoint}

/-- The registry and the draws after so many hits on a name. -/
def hits (n : String) : Nat → Registry → Draws → Registry × Draws
  | 0, r, d => (r, d)
  | k + 1, r, d => hits n k (r.hit n d).2.1 (r.hit n d).2.2

/-- The action that the hit after `k` others selects. -/
def selection (r : Registry) (n : String) (d : Draws) (k : Nat) : Action :=
  (hits n k r d).1.selected n (hits n k r d).2

theorem hits_add (n : String) (k m : Nat) (r : Registry) (d : Draws) :
    hits n (k + m) r d = hits n m (hits n k r d).1 (hits n k r d).2 := by
  induction k generalizing r d with
  | zero => rw [Nat.zero_add]; rfl
  | succ k ih => rw [Nat.succ_add, hits, hits, ih]

/-- After some hits the row of actions goes on. -/
theorem selection_hits (n : String) (k : Nat) (r : Registry) (d : Draws) (j : Nat) :
    (hits n k r d).1.selection n (hits n k r d).2 j = r.selection n d (k + j) := by
  rw [selection, selection, hits_add]

/-- What a failpoint holds apart from its place in the term and its count: its name and the term. -/
def held (f : Failpoint) : Name × Option Term := (f.name, f.installed)

/-- So many hits on `n` are counted if it has a term. The term stays, as do all other failpoints. -/
structure HitOnly (n : String) (k : Nat) (r r' : Registry) : Prop where
  names : r'.names = r.names
  counted : ∀ c, r.count n = .ok c → r'.count n = .ok (c + k)
  idle : (∀ c, r.count n ≠ .ok c) → r' = r
  others : ∀ m, m ≠ n → r'.find? m = r.find? m
  held : ∀ m, (r'.find? m).map held = (r.find? m).map held

/-- The count is that of an installed term. -/
theorem count_eq_ok_iff {c : Nat} :
    r.count n = .ok c ↔ ∃ f t, r.find? n = some f ∧ f.installed = some t ∧ f.hits = c := by
  unfold count lookup
  cases hf : r.find? n with
  | none => simp [Except.bind]
  | some f =>
    cases ht : f.installed with
    | none => simp [Except.bind, Failpoint.count, ht]
    | some t => simp [Except.bind, Failpoint.count, ht]

theorem HitOnly.refl (n : String) (r : Registry) : HitOnly n 0 r r :=
  ⟨rfl, fun _ h => h, fun _ => rfl, fun _ _ => rfl, fun _ => rfl⟩

theorem HitOnly.trans {r' r'' : Registry} {k m : Nat} (h : HitOnly n k r r') (h' : HitOnly n m r' r'') :
    HitOnly n (k + m) r r'' where
  names := h'.names.trans h.names
  counted c hc := by
    rw [← Nat.add_assoc]
    exact h'.counted _ (h.counted c hc)
  idle hnone := by
    have hsame := h.idle hnone
    rw [hsame] at h'
    exact h'.idle hnone
  others m hm := (h'.others m hm).trans (h.others m hm)
  held m := (h'.held m).trans (h.held m)

theorem held_hit (f : Failpoint) (d : Draws) : held (f.hit d).2.1 = held f := by
  cases ht : f.installed with
  | none => rw [Failpoint.hit_of_none ht]
  | some t => rw [Failpoint.hit_of_some ht, held, held]

theorem hitOnly_hit (hr : r.names.Nodup) (n : String) (d : Draws) : HitOnly n 1 r (r.hit n d).2.1 where
  names := names_hit r n d
  counted c hc := by
    obtain ⟨f, t, hf, ht, rfl⟩ := count_eq_ok_iff.1 hc
    refine count_eq_ok_iff.2 ⟨_, t, find?_hit hf n d, ?_, ?_⟩
    · rw [if_pos rfl, Failpoint.hit_of_some ht]
      exact ht
    · rw [if_pos rfl, Failpoint.hit_of_some ht]
  idle hnone := by
    have hidle : ∀ f, r.find? n = some f → f.installed = none := by
      intro f hf
      by_contra hsome
      obtain ⟨t, ht⟩ := Option.ne_none_iff_exists'.1 hsome
      exact hnone _ (count_eq_ok_iff.2 ⟨f, t, hf, ht, rfl⟩)
    obtain ⟨e, he⟩ := hit_of_idle hr hidle d
    rw [he]
  others m hm := by
    cases hf : r.find? m with
    | none =>
      rw [find?_eq_none_iff, names_hit]
      exact find?_eq_none_iff.1 hf
    | some f => rw [find?_hit hf n d, if_neg hm]
  held m := by
    cases hf : r.find? m with
    | none =>
      have hnone : (r.hit n d).2.1.find? m = none := by
        rw [find?_eq_none_iff, names_hit]
        exact find?_eq_none_iff.1 hf
      rw [hnone]
    | some f =>
      rw [find?_hit hf n d, Option.map_some, Option.map_some]
      split
      · rw [held_hit]
      · rfl

end Registry

namespace Action

/-- The nanoseconds for which an action pauses. -/
def pause : Action → Nat
  | sleep duration => duration.nanos
  | _ => 0

end Action

namespace Trail

open Registry

variable {t t' : Trail} {n : String}

/-- The action that the injection after `k` others under a name enacts. -/
def selection (t : Trail) (n : String) (k : Nat) : Action := t.registry.selection n t.draws k

/-- The actions that the next injections under a name enact. -/
def actions (t : Trail) (n : String) (k : Nat) : List Action := (List.range k).map (t.selection n)

/-- The nanoseconds of all pauses. -/
def slept (t : Trail) : Nat := (t.pauses.map (·.duration.nanos)).sum

/-- An injection ends as the action says that is selected first. -/
theorem inject_fst (t : Trail) (n : String) : (t.inject n).1 = outcomeOf n (t.selection n 0) := by
  rw [inject, inject_eq]
  rfl

/-- `t'` is what so many injections under a name make of `t`: their hits are counted and nothing else changes,
they pause as long as their actions say, and log what their actions log. -/
structure Accounts (t : Trail) (n : String) (k : Nat) (t' : Trail) : Prop where
  hits : (t'.registry, t'.draws) = Registry.hits n k t.registry t.draws
  only : HitOnly n k t.registry t'.registry
  pauses : t'.pauses = t.pauses ++ (t.actions n k).flatMap (pausesOf .suspended)
  events : t'.events = t.events ++ (t.actions n k).flatMap fun a => t.registry.warnings n ++ enacted n a

theorem Accounts.refl (t : Trail) (n : String) : t.Accounts n 0 t :=
  ⟨rfl, .refl n t.registry, (List.append_nil _).symm, (List.append_nil _).symm⟩

theorem Accounts.selection {k : Nat} (h : t.Accounts n k t') (j : Nat) :
    t'.selection n j = t.selection n (k + j) := by
  obtain ⟨hregistry, hdraws⟩ := Prod.mk.inj h.hits
  rw [Trail.selection, Trail.selection, hregistry, hdraws, selection_hits]

theorem Accounts.actions_add {k : Nat} (h : t.Accounts n k t') (m : Nat) :
    t.actions n (k + m) = t.actions n k ++ t'.actions n m := by
  rw [actions, actions, actions, List.range_add, List.map_append, List.map_map]
  refine congrArg _ (List.map_congr_left fun j _ => ?_)
  rw [Function.comp_apply, h.selection]

theorem Accounts.trans {t'' : Trail} {k m : Nat} (h : t.Accounts n k t') (h' : t'.Accounts n m t'') :
    t.Accounts n (k + m) t'' where
  hits := by
    obtain ⟨hregistry, hdraws⟩ := Prod.mk.inj h.hits
    rw [h'.hits, hits_add, hregistry, hdraws]
  only := h.only.trans h'.only
  pauses := by rw [h'.pauses, h.pauses, h.actions_add, List.flatMap_append, List.append_assoc]
  events := by
    have hwarnings : t'.registry.warnings n = t.registry.warnings n := by
      rw [warnings, warnings, h.only.names]
    rw [h'.events, h.events, hwarnings, h.actions_add, List.flatMap_append, List.append_assoc]

theorem accounts_inject (hr : t.registry.names.Nodup) (n : String) : t.Accounts n 1 (t.inject n).2 := by
  have hinjected : (t.inject n).2 = ⟨(t.registry.hit n t.draws).2.1,
      t.events ++ (t.registry.warnings n ++ enacted n (t.selection n 0)),
      t.pauses ++ pausesOf .suspended (t.selection n 0), (t.registry.hit n t.draws).2.2⟩ := by
    rw [inject, inject_eq]
    rfl
  rw [hinjected]
  exact ⟨rfl, hitOnly_hit hr n t.draws, by simp [actions], by simp [actions]⟩

theorem sum_pauses (as : List Action) :
    ((as.flatMap (pausesOf .suspended)).map (·.duration.nanos)).sum = (as.map Action.pause).sum := by
  induction as with
  | nil => rfl
  | cons a as ih =>
    have hone : ((pausesOf .suspended a).map (·.duration.nanos)).sum = a.pause := by cases a <;> rfl
    rw [List.flatMap_cons, List.map_append, List.sum_append, hone, ih, List.map_cons, List.sum_cons]

/-- The time that passes is the sum of what the actions ask for. -/
theorem Accounts.slept {k : Nat} (h : t.Accounts n k t') :
    t'.slept = t.slept + ((t.actions n k).map Action.pause).sum := by
  rw [Trail.slept, Trail.slept, h.pauses, List.map_append, List.sum_append, sum_pauses]

end Trail

end FaultInjection
