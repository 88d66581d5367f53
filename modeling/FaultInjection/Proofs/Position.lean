import FaultInjection.Proofs.Term.Parse
import FaultInjection.Position
import Mathlib.Data.List.GetD

/-!
# The course of a term

`Position.walk` repeats hits, and `Position.firings` lists those that fire. A hit that does not fire
changes no more than the supply of draws (`advance_of_not_fired`). Those that fire follow a script,
which is fixed before the first hit: `script_zero` gives its head, `script_succ` says that a firing
takes the head off, and `firings_eq_map_script` follows by induction on the hits. The draws decide
when the script goes on, and never how.
-/

namespace FaultInjection.Position

open Decimal

variable {t : Term} {p : Position} {d : Draws} {s : Segment}

/-! ## One hit -/

/-- Whether a segment fires on the next draw; without a percentage it always does. -/
def fired (s : Segment) (d : Draws) : Bool := s.percentage.all fun q => (d.sequence d.taken).lt q

theorem fires_fst : (fires s d).1 = fired s d := by
  unfold fires fired
  cases s.percentage with
  | none => rfl
  | some q => rfl

/-- A draw is taken exactly where there is a percentage. -/
theorem fires_snd : (fires s d).2 = { d with taken := d.taken + if s.percentage.isSome then 1 else 0 } := by
  unfold fires
  cases s.percentage with
  | none => rfl
  | some q => rfl

theorem advance_of_inactive (h : t.segments[p.index]? = none) : p.advance t d = (.off, p, d) := by
  rw [advance, h]

theorem advance_of_fired (h : t.segments[p.index]? = some s) (hf : fired s d = true) :
    p.advance t d = (s.action, afterFiring t p s, (fires s d).2) := by
  rw [← fires_fst] at hf
  rw [advance, h]
  exact if_pos hf

theorem advance_of_not_fired (h : t.segments[p.index]? = some s) (hf : ¬ fired s d = true) :
    p.advance t d = (.off, p, (fires s d).2) := by
  rw [← fires_fst] at hf
  rw [advance, h]
  exact if_neg hf

/-- What a hit takes from the supply is settled by the active segment alone. -/
theorem advance_draws (h : t.segments[p.index]? = some s) : (p.advance t d).2.2 = (fires s d).2 := by
  by_cases hf : fired s d = true
  · rw [advance_of_fired h hf]
  · rw [advance_of_not_fired h hf]

/-! ## After a firing -/

theorem afterFiring_of_uncounted (hc : s.count = none) : afterFiring t p s = p := by rw [afterFiring, hc]

theorem afterFiring_of_left {c : Nat} (hc : s.count = some c) (hr : 1 < p.remaining) :
    afterFiring t p s = { p with remaining := p.remaining - 1 } := by
  rw [afterFiring, hc]
  exact if_pos hr

/-- The last segment starts again. -/
theorem afterFiring_of_last {c : Nat} (hc : s.count = some c) (hr : ¬ 1 < p.remaining)
    (hnext : t.segments[p.index + 1]? = none) : afterFiring t p s = entering p.index s := by
  rw [afterFiring, hc]
  dsimp only
  rw [if_neg hr, hnext]

theorem afterFiring_of_next {c : Nat} (hc : s.count = some c) (hr : ¬ 1 < p.remaining) {following : Segment}
    (hnext : t.segments[p.index + 1]? = some following) :
    afterFiring t p s = entering (p.index + 1) following := by
  rw [afterFiring, hc]
  dsimp only
  rw [if_neg hr, hnext]

/-! ## Many hits -/

/-- The position and the supply of draws after so many hits. -/
def walk (t : Term) : Nat → Position → Draws → Position × Draws
  | 0, p, d => (p, d)
  | n + 1, p, d => walk t n (p.advance t d).2.1 (p.advance t d).2.2

/-- The hits that fire among so many: the index of the segment and the action, in order. -/
def firings (t : Term) : Nat → Position → Draws → List (Nat × Action)
  | 0, _, _ => []
  | n + 1, p, d =>
    let later := firings t n (p.advance t d).2.1 (p.advance t d).2.2
    match t.segments[p.index]? with
    | none => later
    | some s => if fired s d then (p.index, (p.advance t d).1) :: later else later

theorem walk_of_inactive (h : t.segments[p.index]? = none) (n : Nat) : walk t n p d = (p, d) := by
  induction n with
  | zero => rfl
  | succ n ih => rw [walk, advance_of_inactive h, ih]

theorem afterFiring_active (h : t.segments[p.index]? = some s) :
    (t.segments[(afterFiring t p s).index]?).isSome = true := by
  have hself : (t.segments[p.index]?).isSome = true := by rw [h, Option.isSome_some]
  unfold afterFiring
  split
  · exact hself
  · split
    · exact hself
    · split
      · next following hnext => rw [entering, hnext, Option.isSome_some]
      · exact hself

theorem advance_active (h : (t.segments[p.index]?).isSome = true) (d : Draws) :
    (t.segments[(p.advance t d).2.1.index]?).isSome = true := by
  obtain ⟨s, hs⟩ := Option.isSome_iff_exists.1 h
  by_cases hf : fired s d = true
  · rw [advance_of_fired hs hf]
    exact afterFiring_active hs
  · rw [advance_of_not_fired hs hf]
    exact h

/-- A walk that starts at a segment stays within the term. -/
theorem walk_active (h : (t.segments[p.index]?).isSome = true) (n : Nat) :
    (t.segments[(walk t n p d).1.index]?).isSome = true := by
  induction n generalizing p d with
  | zero => exact h
  | succ n ih => exact ih (advance_active h d)

/-! ## The script -/

/-- The firings of all segments before the one that repeats for ever, each as often as it counts. The
first segment has index `i`. -/
def countedFirings (i : Nat) : List Segment → List (Nat × Action)
  | s :: s' :: ss =>
    match s.count with
    | none => []
    | some c => List.replicate c (i, s.action) ++ countedFirings (i + 1) (s' :: ss)
  | _ => []

/-- The firing that repeats for ever: that of the first segment without a count, or else of the last. -/
def lastFiring (i : Nat) : List Segment → Nat × Action
  | [] => (i, .off)
  | [s] => (i, s.action)
  | s :: s' :: ss =>
    match s.count with
    | none => (i, s.action)
    | some _ => lastFiring (i + 1) (s' :: ss)

/-- The segment and the action of the `k`-th firing. -/
def script (i : Nat) (ss : List Segment) (k : Nat) : Nat × Action :=
  (countedFirings i ss).getD k (lastFiring i ss)

/-- The segments from a position on, the active one with the firings it has left for its count. -/
def rest (t : Term) (p : Position) : List Segment :=
  match t.segments.drop p.index with
  | [] => []
  | s :: ss => { s with count := s.count.map fun _ => max p.remaining 1 } :: ss

theorem script_single (i : Nat) (s : Segment) (k : Nat) : script i [s] k = (i, s.action) := by
  simp [script, countedFirings, lastFiring]

theorem script_of_count_none {i : Nat} (h : s.count = none) (ss : List Segment) (k : Nat) :
    script i (s :: ss) k = (i, s.action) := by
  cases ss with
  | nil => exact script_single i s k
  | cons s' ss => simp [script, countedFirings, lastFiring, h]

theorem script_of_lt {i c k : Nat} (h : s.count = some c) (hk : k < c) (ss : List Segment) :
    script i (s :: ss) k = (i, s.action) := by
  cases ss with
  | nil => exact script_single i s k
  | cons s' ss =>
    have hlt : k < (List.replicate c (i, s.action)).length := by simpa using hk
    simp only [script, countedFirings, h]
    rw [List.getD_append _ _ _ _ hlt, List.getD_replicate _ hk]

theorem script_of_le {i c k : Nat} (h : s.count = some c) (hk : c ≤ k) {ss : List Segment} (hn : ss ≠ []) :
    script i (s :: ss) k = script (i + 1) ss (k - c) := by
  obtain ⟨s', ss, rfl⟩ := List.exists_cons_of_ne_nil hn
  simp only [script, countedFirings, lastFiring, h]
  rw [List.getD_append_right _ _ _ _ (by simpa using hk), List.length_replicate]

/-- The active segment has a place in the rest of the term. -/
theorem rest_of_active (h : t.segments[p.index]? = some s) :
    rest t p = { s with count := s.count.map fun _ => max p.remaining 1 } :: t.segments.drop (p.index + 1) := by
  obtain ⟨hlt, hs⟩ := List.getElem?_eq_some_iff.1 h
  rw [rest, List.drop_eq_getElem_cons hlt, hs]

/-- Entering a segment leaves the term as it is from there on, since no count is zero. -/
theorem rest_entering {i : Nat} (h : t.segments[i]? = some s) (hpos : ∀ c ∈ s.count, 1 ≤ c) :
    rest t (entering i s) = t.segments.drop i := by
  obtain ⟨hlt, hs⟩ := List.getElem?_eq_some_iff.1 h
  have hcount : (s.count.map fun _ => max (s.count.getD 0) 1) = s.count := by
    cases hc : s.count with
    | none => rfl
    | some c =>
      have hle := hpos c hc
      simp [Nat.max_eq_left hle]
  rw [rest_of_active h, List.drop_eq_getElem_cons hlt, hs]
  exact congrArg (· :: t.segments.drop (i + 1)) (by rw [entering, hcount])

/-- The first firing is that of the active segment. -/
theorem script_zero (h : t.segments[p.index]? = some s) :
    script p.index (rest t p) 0 = (p.index, s.action) := by
  rw [rest_of_active h]
  cases hc : s.count with
  | none => exact script_of_count_none rfl _ 0
  | some c => exact script_of_lt rfl (Nat.lt_of_lt_of_le Nat.one_pos (Nat.le_max_right _ 1)) _

theorem drop_succ_eq_nil_iff {i : Nat} : t.segments.drop (i + 1) = [] ↔ t.segments[i + 1]? = none := by
  rw [List.drop_eq_nil_iff, List.getElem?_eq_none_iff]

/-- One firing less of a segment that goes on firing. -/
theorem script_count_pred {i r : Nat} (hr : 1 < r) (s : Segment) (ss : List Segment) (k : Nat) :
    script i ({ s with count := some (r - 1) } :: ss) k = script i ({ s with count := some r } :: ss) (k + 1) := by
  by_cases hn : ss = []
  · rw [hn, script_single, script_single]
  by_cases hk : k < r - 1
  · rw [script_of_lt rfl hk, script_of_lt rfl (Nat.add_lt_of_lt_sub hk)]
  · rw [script_of_le rfl (Nat.not_lt.1 hk) hn, script_of_le rfl (by omega) hn]
    congr 1
    omega

/-- A firing takes the head off the script. -/
theorem script_succ (hpos : ∀ s ∈ t.segments, ∀ c ∈ s.count, 1 ≤ c) (h : t.segments[p.index]? = some s)
    (k : Nat) : script (afterFiring t p s).index (rest t (afterFiring t p s)) k =
      script p.index (rest t p) (k + 1) := by
  rw [rest_of_active h]
  cases hc : s.count with
  | none =>
    rw [afterFiring_of_uncounted hc, rest_of_active h, hc, script_of_count_none rfl, script_of_count_none rfl]
  | some c =>
    by_cases hr : 1 < p.remaining
    · have hmax : max (p.remaining - 1) 1 = p.remaining - 1 := by omega
      have hmax' : max p.remaining 1 = p.remaining := by omega
      rw [afterFiring_of_left hc hr, rest_of_active (p := { p with remaining := p.remaining - 1 }) h, hc,
        Option.map_some, Option.map_some, hmax, hmax']
      exact script_count_pred hr s _ k
    · have hmax : max p.remaining 1 = 1 := by omega
      rw [Option.map_some, hmax]
      cases hnext : t.segments[p.index + 1]? with
      | none =>
        rw [afterFiring_of_last hc hr hnext, rest_of_active (p := entering p.index s) h, entering,
          drop_succ_eq_nil_iff.2 hnext, script_single, script_single]
      | some following =>
        have hn : t.segments.drop (p.index + 1) ≠ [] := by
          intro he
          rw [drop_succ_eq_nil_iff.1 he] at hnext
          cases hnext
        rw [afterFiring_of_next hc hr hnext,
          rest_entering hnext (hpos following (List.mem_of_getElem? hnext)),
          script_of_le rfl (Nat.le_add_left 1 k) hn]
        rfl

/-- The hits that fire do so as the script says, whatever the draws. -/
theorem firings_eq_map_script (hpos : ∀ s ∈ t.segments, ∀ c ∈ s.count, 1 ≤ c)
    (h : (t.segments[p.index]?).isSome = true) (n : Nat) (d : Draws) :
    firings t n p d = (List.range (firings t n p d).length).map (script p.index (rest t p)) := by
  induction n generalizing p d with
  | zero => rfl
  | succ n ih =>
    obtain ⟨s, hs⟩ := Option.isSome_iff_exists.1 h
    have ih := ih (advance_active h d) (p.advance t d).2.2
    rw [firings, hs]
    dsimp only
    by_cases hf : fired s d = true
    · rw [advance_of_fired hs hf] at ih ⊢
      rw [if_pos hf, List.length_cons, List.range_succ_eq_map, List.map_cons, List.map_map, script_zero hs]
      exact congrArg _ (ih.trans (List.map_congr_left fun k _ => script_succ hpos hs k))
    · rw [advance_of_not_fired hs hf] at ih ⊢
      rw [if_neg hf]
      exact ih

/-! ## The script of a whole term -/

/-- How often the segments in front fire, if each has a count. -/
def firingsBefore (before : List Segment) : Nat := (before.map fun s => s.count.getD 0).sum

theorem le_script (i : Nat) (ss : List Segment) (k : Nat) : i ≤ (script i ss k).1 := by
  induction ss generalizing i k with
  | nil => simp [script, countedFirings, lastFiring]
  | cons s ss ih =>
    cases hc : s.count with
    | none => rw [script_of_count_none hc]
    | some c =>
      by_cases hk : k < c
      · rw [script_of_lt hc hk]
      by_cases hn : ss = []
      · rw [hn, script_single]
      rw [script_of_le hc (Nat.not_lt.1 hk) hn]
      exact Nat.le_of_succ_le (ih (i + 1) (k - c))

/-- What the segments in front leave over is the script of those behind. -/
theorem script_append {before ss : List Segment} (hb : ∀ s ∈ before, s.count.isSome = true) (hn : ss ≠ [])
    (i k : Nat) : if firingsBefore before ≤ k then
        script i (before ++ ss) k = script (i + before.length) ss (k - firingsBefore before)
      else (script i (before ++ ss) k).1 < i + before.length := by
  induction before generalizing i k with
  | nil => simp [firingsBefore]
  | cons s before ih =>
    obtain ⟨c, hc⟩ := Option.isSome_iff_exists.1 (hb s (by simp))
    have hsum : firingsBefore (s :: before) = c + firingsBefore before := by simp [firingsBefore, hc]
    have hn' : before ++ ss ≠ [] := by simp [hn]
    by_cases hk : k < c
    · rw [if_neg (by omega), List.cons_append, script_of_lt hc hk]
      simp
    · have ih := ih (fun b hb' => hb b (by simp [hb'])) (i + 1) (k - c)
      rw [List.cons_append, script_of_le hc (Nat.not_lt.1 hk) hn', hsum, List.length_cons,
        Nat.add_comm before.length 1, ← Nat.add_assoc, ← Nat.sub_sub]
      split at ih
      · next hle => rwa [if_pos (by omega)]
      · next hle => rwa [if_neg (by omega)]

/-- The window of firings that belong to one segment: it opens after those of the segments in front, and
closes after the segment's own count unless the segment is the last one. -/
theorem script_index_iff {before after : List Segment} (hb : ∀ s ∈ before, s.count.isSome = true)
    (s : Segment) (k : Nat) : (script 0 (before ++ s :: after) k).1 = before.length ↔
      firingsBefore before ≤ k ∧ (after ≠ [] → ∀ c ∈ s.count, k < firingsBefore before + c) := by
  have happend := script_append hb (List.cons_ne_nil s after) 0 k
  rw [Nat.zero_add] at happend
  split at happend
  · next hle =>
    rw [happend]
    by_cases hn : after = []
    · simp [hn, script_single, hle]
    cases hc : s.count with
    | none => simp [script_of_count_none hc, hle]
    | some c =>
      by_cases hk : k - firingsBefore before < c
      · rw [script_of_lt hc hk]
        simp only [Option.mem_some_iff, forall_eq', true_iff]
        exact ⟨hle, fun _ => by omega⟩
      · have hnext := le_script (before.length + 1) after (k - firingsBefore before - c)
        rw [script_of_le hc (Nat.not_lt.1 hk) hn]
        simp only [Option.mem_some_iff, forall_eq']
        exact ⟨fun h => by omega, fun h => absurd (h.2 hn) (by omega)⟩
  · next hlt => exact ⟨fun h => by omega, fun h => by omega⟩

/-- At the start the rest of a term is all of it. -/
theorem rest_start (hpos : ∀ s ∈ t.segments, ∀ c ∈ s.count, 1 ≤ c) : rest t (start t) = t.segments := by
  unfold start
  split
  · next hss => rw [rest, hss]; rfl
  · next s ss hss =>
    have hfirst : t.segments[0]? = some s := by rw [hss]; rfl
    exact rest_entering hfirst (hpos s (List.mem_of_getElem? hfirst))

theorem start_index (t : Term) : (start t).index = 0 := by
  unfold start
  split <;> rfl

/-- What one hit does while `s` is the active segment. -/
structure Hit (t : Term) (s : Segment) (p : Position) (d : Draws) : Prop where
  draws : (p.advance t d).2.2 = { d with taken := d.taken + if s.percentage.isSome then 1 else 0 }
  missed : fired s d = false → (p.advance t d).1 = .off ∧ (p.advance t d).2.1 = p
  fired : fired s d = true → (p.advance t d).1 = s.action

theorem hit_of_active (h : t.segments[p.index]? = some s) (d : Draws) : Hit t s p d where
  draws := (advance_draws h).trans fires_snd
  missed hf := by
    rw [advance_of_not_fired h (by simp [hf])]
    exact ⟨rfl, rfl⟩
  fired hf := by rw [advance_of_fired h hf]

/-- The course of a term from any position and with any draws. Behind the last segment nothing ever
happens. Elsewhere each hit takes a draw exactly where there is a percentage, a hit that does not fire
changes nothing else, and the hits that fire follow the script of what is left of the term. From the
start this script gives each segment its window of firings, as wide as its count. -/
theorem walk_follows_script (spec : String) (t : Term) (h : Term.parse spec = .ok t) (p : Position)
    (d : Draws) :
    (t.segments.length ≤ p.index → ∀ n, walk t n p d = (p, d) ∧ p.advance t d = (.off, p, d)) ∧
    (p.index < t.segments.length → ∀ n,
      (∃ s, t.segments[(walk t n p d).1.index]? = some s ∧ Hit t s (walk t n p d).1 (walk t n p d).2) ∧
      firings t n p d = (List.range (firings t n p d).length).map (script p.index (rest t p))) ∧
    (rest t (start t) = t.segments ∧ ∀ before s after, t.segments = before ++ s :: after →
      (∀ b ∈ before, b.count.isSome = true) → ∀ n k f, (firings t n (start t) d)[k]? = some f →
        (f.1 = before.length ↔
          firingsBefore before ≤ k ∧ (after ≠ [] → ∀ c ∈ s.count, k < firingsBefore before + c))) := by
  have hpos := one_le_count_of_parse h
  refine ⟨fun hle n => ?_, fun hlt n => ⟨?_, ?_⟩, rest_start hpos, ?_⟩
  · have hnone := List.getElem?_eq_none hle
    exact ⟨walk_of_inactive hnone n, advance_of_inactive hnone⟩
  · have hactive := walk_active (d := d) (Option.isSome_iff_exists.2 ⟨_, List.getElem?_eq_getElem hlt⟩) n
    obtain ⟨s, hs⟩ := Option.isSome_iff_exists.1 hactive
    exact ⟨s, hs, hit_of_active hs _⟩
  · exact firings_eq_map_script hpos (Option.isSome_iff_exists.2 ⟨_, List.getElem?_eq_getElem hlt⟩) n d
  · intro before s after hss hb n k f hf
    have hstart : (t.segments[(start t).index]?).isSome = true := by
      rw [start_index, hss]
      cases before <;> rfl
    have hscript := firings_eq_map_script hpos hstart n d
    rw [hscript, List.getElem?_map, Option.map_eq_some_iff, start_index, rest_start hpos, hss] at hf
    obtain ⟨j, hj, rfl⟩ := hf
    obtain ⟨-, rfl⟩ := List.getElem?_eq_some_iff.1 hj
    rw [List.getElem_range]
    exact script_index_iff hb s k

/-- A term that prints twice and then panics on every hit whose draw is below fifty. -/
def printTwice : Term :=
  ⟨"2*print->50%panic", [⟨none, some 2, .print none⟩, ⟨some Binary64.fifty, none, .panic none⟩]⟩

/-- With one firing left of the first segment and draws of zero, four hits print once and panic. -/
theorem firings_printTwice :
    Term.parse "2*print->50%panic" = .ok printTwice ∧
      firings printTwice 4 ⟨0, 1⟩ (Draws.constant Binary64.zero) =
        [(0, .print none), (1, .panic none), (1, .panic none), (1, .panic none)] := by
  have hparse : Term.parse "2*print->50%panic" = .ok printTwice := by decide +kernel
  obtain ⟨-, hcourse, -⟩ := walk_follows_script _ _ hparse ⟨0, 1⟩ (Draws.constant Binary64.zero)
  exact ⟨hparse, (hcourse (by decide) 4).2.trans (by decide)⟩

end FaultInjection.Position
