import FaultInjection.Proofs.Position
import FaultInjection.Proofs.Registry.Evolution

/-!
# The invariant of a failpoint

What is stored of a failpoint fits together: an installed term is one that its own text denotes
(`Term.Accepted`), and the position lies within it, no further than the first segment that repeats for
ever and with a part of the active count left (`Position.Within`); without a term there are no hits and the
position is the default one. Every step keeps this (`Step.sound`). Between two installs a failpoint does not
go back in its term, unless the term is removed: `Step.follows`.
-/

namespace FaultInjection

open Decimal

/-- A term as a text denotes it. -/
structure Term.Accepted (t : Term) : Prop where
  read : Term.parse t.source = .ok t
  ne_nil : t.segments ≠ []
  /-- Numbers of the format are finite, and these lie above zero and up to one hundred. -/
  percentage : ∀ s ∈ t.segments, ∀ p ∈ s.percentage,
    p.negative = false ∧ 0 < p.units ∧ p.units ≤ inUnits 100
  count : ∀ s ∈ t.segments, ∀ c ∈ s.count, 1 ≤ c

theorem SegmentText.percentage_range {cs : List Char} {s : Segment} (h : SegmentText cs s) :
    ∀ p ∈ s.percentage, p.negative = false ∧ 0 < p.units ∧ p.units ≤ inUnits 100 := by
  cases h with
  | intro _ hpercentage _ _ _ =>
    intro p hp
    cases hpercentage with
    | absent => cases hp
    | given hx _ _ =>
      obtain rfl := Option.some.inj hp
      cases hx with
      | intro _ _ _ hnegative hpos hle => exact ⟨hnegative, hpos, hle⟩

theorem ChainText.ne_nil {cs : List Char} {ss : List Segment} (h : ChainText cs ss) : ss ≠ [] := by
  cases h <;> exact List.cons_ne_nil _ _

theorem accepted_of_parse {spec : String} {t : Term} (h : Term.parse spec = .ok t) : t.Accepted := by
  obtain ⟨hsource, hchain⟩ := chainText_of_parse h
  refine ⟨by rw [hsource]; exact h, hchain.ne_nil, fun s hs => ?_, one_le_count_of_parse h⟩
  obtain ⟨_, hsegment⟩ := hchain.forall_segment s hs
  exact hsegment.percentage_range

namespace Position

variable {t : Term} {p : Position} {s : Segment}

/-- A position within a term. -/
structure Within (t : Term) (p : Position) : Prop where
  index_lt : p.index < t.segments.length
  /-- A segment without a count is never passed. -/
  index_le : ∀ i s, t.segments[i]? = some s → s.count = none → p.index ≤ i
  remaining_eq_zero_iff : ∀ s, t.segments[p.index]? = some s → (p.remaining = 0 ↔ s.count = none)
  remaining_le : ∀ s, t.segments[p.index]? = some s → ∀ c ∈ s.count, 1 ≤ p.remaining ∧ p.remaining ≤ c

theorem within_of_active (hs : t.segments[p.index]? = some s)
    (hle : ∀ i s, t.segments[i]? = some s → s.count = none → p.index ≤ i)
    (hnone : s.count = none → p.remaining = 0) (hsome : ∀ c ∈ s.count, 1 ≤ p.remaining ∧ p.remaining ≤ c) :
    p.Within t := by
  refine ⟨(List.getElem?_eq_some_iff.1 hs).1, hle, fun s' hs' => ?_, fun s' hs' => ?_⟩
  · obtain rfl := Option.some.inj (hs.symm.trans hs')
    refine ⟨fun hzero => Option.eq_none_iff_forall_not_mem.2 fun c hc => ?_, hnone⟩
    have hone := (hsome c hc).1
    omega
  · obtain rfl := Option.some.inj (hs.symm.trans hs')
    exact hsome

/-- A segment is entered with its full count. -/
theorem within_entering {i : Nat} (hs : t.segments[i]? = some s) (hpos : ∀ c ∈ s.count, 1 ≤ c)
    (hle : ∀ j s, t.segments[j]? = some s → s.count = none → i ≤ j) : (entering i s).Within t := by
  refine within_of_active hs hle (fun hnone => ?_) (fun c hc => ?_)
  · rw [entering, hnone, Option.getD_none]
  · have hcount : s.count = some c := hc
    rw [entering, hcount, Option.getD_some]
    exact ⟨hpos c hc, Nat.le_refl c⟩

theorem within_start (h : t.Accepted) : (start t).Within t := by
  unfold start
  split
  · next hnil => exact absurd hnil h.ne_nil
  · next s ss hss =>
    have hfirst : t.segments[0]? = some s := by rw [hss]; rfl
    exact within_entering hfirst (h.count s (List.mem_of_getElem? hfirst)) fun j _ _ _ => Nat.zero_le j

/-- A firing leaves the position within the term: it uses up a part of the count, or hands over to the
next segment, or starts the last segment again. -/
theorem Within.afterFiring (hw : p.Within t) (h : t.Accepted) (hs : t.segments[p.index]? = some s) :
    (afterFiring t p s).Within t := by
  cases hc : s.count with
  | none =>
    rw [afterFiring_of_uncounted hc]
    exact hw
  | some c =>
    obtain ⟨-, hle⟩ := hw.remaining_le s hs c hc
    by_cases hr : 1 < p.remaining
    · rw [afterFiring_of_left hc hr]
      refine within_of_active (p := { p with remaining := p.remaining - 1 }) hs hw.index_le
        (fun hnone => ?_) (fun c' hc' => ?_)
      · rw [hc] at hnone
        cases hnone
      · obtain rfl := Option.some.inj (hc.symm.trans hc')
        dsimp only
        omega
    · cases hnext : t.segments[p.index + 1]? with
      | none =>
        rw [afterFiring_of_last hc hr hnext]
        exact within_entering hs (h.count s (List.mem_of_getElem? hs)) hw.index_le
      | some following =>
        rw [afterFiring_of_next hc hr hnext]
        refine within_entering hnext (h.count following (List.mem_of_getElem? hnext)) fun j s' hj hnone => ?_
        -- The segment that was left has a count, so the first one without comes later.
        have hne : p.index ≠ j := by
          rintro rfl
          obtain rfl := Option.some.inj (hs.symm.trans hj)
          rw [hc] at hnone
          cases hnone
        exact Nat.lt_of_le_of_ne (hw.index_le j s' hj hnone) hne

theorem Within.advance (hw : p.Within t) (h : t.Accepted) (d : Draws) : (p.advance t d).2.1.Within t := by
  obtain ⟨s, hs⟩ : ∃ s, t.segments[p.index]? = some s := ⟨_, List.getElem?_eq_getElem hw.index_lt⟩
  by_cases hf : fired s d = true
  · rw [advance_of_fired hs hf]
    exact hw.afterFiring h hs
  · rw [advance_of_not_fired hs hf]
    exact hw

theorem index_le_afterFiring (t : Term) (p : Position) (s : Segment) :
    p.index ≤ (afterFiring t p s).index := by
  unfold afterFiring
  split
  · exact Nat.le_refl _
  · split
    · exact Nat.le_refl _
    · split
      · exact Nat.le_succ _
      · exact Nat.le_refl _

theorem index_le_advance (t : Term) (p : Position) (d : Draws) : p.index ≤ (p.advance t d).2.1.index := by
  cases hs : t.segments[p.index]? with
  | none => rw [advance_of_inactive hs]
  | some s =>
    by_cases hf : fired s d = true
    · rw [advance_of_fired hs hf]
      exact index_le_afterFiring t p s
    · rw [advance_of_not_fired hs hf]

end Position

namespace Failpoint

variable {f f' f'' : Failpoint}

/-- What is stored of a failpoint fits together. -/
structure Sound (f : Failpoint) : Prop where
  cleared : f.installed = none → f.hits = 0 ∧ f.position = Position.origin
  installed : ∀ t ∈ f.installed, t.Accepted ∧ f.position.Within t

theorem sound_disabled (name : Name) : (disabled name).Sound := ⟨fun _ => ⟨rfl, rfl⟩, nofun⟩

/-- Clearing sets back all that belongs to the term. -/
theorem sound_clear (f : Failpoint) : f.clear.Sound := ⟨fun _ => ⟨rfl, rfl⟩, nofun⟩

theorem sound_of_some {t : Term} (h : f.installed = some t) (haccepted : t.Accepted)
    (hwithin : f.position.Within t) : f.Sound := by
  refine ⟨fun hnone => ?_, fun t' ht' => ?_⟩
  · rw [h] at hnone
    cases hnone
  · obtain rfl := Option.some.inj (h.symm.trans ht')
    exact ⟨haccepted, hwithin⟩

theorem sound_install {spec : String} {t : Term} (f : Failpoint) (h : Term.parse spec = .ok t) :
    (f.install t).Sound :=
  sound_of_some rfl (accepted_of_parse h) (Position.within_start (accepted_of_parse h))

/-- A hit moves on in the term that is installed, and changes nothing if there is none. -/
theorem Sound.hit (h : f.Sound) (d : Draws) : (f.hit d).2.1.Sound := by
  cases ht : f.installed with
  | none =>
    rw [hit_of_none ht]
    exact h
  | some t =>
    obtain ⟨haccepted, hwithin⟩ := h.installed t ht
    rw [hit_of_some ht]
    exact sound_of_some ht haccepted (hwithin.advance haccepted d)

/-- One failpoint follows another without an install. -/
inductive Follows (removed : Prop) (f f' : Failpoint) : Prop where
  /-- Nothing became of it. -/
  | same : f' = f → Follows removed f f'
  /-- It holds the same term and stands no earlier in it. -/
  | kept {t : Term} : f.installed = some t → f'.installed = some t → f.position.index ≤ f'.position.index →
      Follows removed f f'
  /-- Its term was removed, and its place set back. -/
  | cleared : removed → f'.installed = none → f'.position = Position.origin → Follows removed f f'

variable {removed removed' : Prop}

theorem Follows.mono (h : Follows removed f f') (himp : removed → removed') : Follows removed' f f' := by
  cases h with
  | same heq => exact .same heq
  | kept ht ht' hle => exact .kept ht ht' hle
  | cleared hr hnone hposition => exact .cleared (himp hr) hnone hposition

theorem Follows.trans (h : Follows removed f f') (h' : Follows removed' f' f'') :
    Follows (removed ∨ removed') f f'' := by
  cases h' with
  | same heq =>
    subst heq
    exact h.mono .inl
  | cleared hr hnone hposition => exact .cleared (.inr hr) hnone hposition
  | kept ht' ht'' hle' =>
    cases h with
    | same heq =>
      subst heq
      exact .kept ht' ht'' hle'
    | kept ht hsame hle =>
      obtain rfl := Option.some.inj (hsame.symm.trans ht')
      exact .kept ht ht'' (hle.trans hle')
    | cleared _ hnone _ =>
      rw [hnone] at ht'
      cases ht'

/-- The index only ever falls back with the removal of the term, and then to that of a disabled failpoint. -/
theorem Follows.index_le (h : Follows removed f f') : f.position.index ≤ f'.position.index ∨
    removed ∧ f'.installed = none ∧ f'.position = Position.origin := by
  cases h with
  | same heq => exact .inl (heq ▸ Nat.le_refl _)
  | kept _ _ hle => exact .inl hle
  | cleared hr hnone hposition => exact .inr ⟨hr, hnone, hposition⟩

theorem follows_hit (removed : Prop) (f : Failpoint) (d : Draws) : Follows removed f (f.hit d).2.1 := by
  cases ht : f.installed with
  | none => exact .same (by rw [hit_of_none ht])
  | some t =>
    rw [hit_of_some ht]
    exact .kept ht ht (Position.index_le_advance t f.position d)

end Failpoint

namespace Registry

variable {r r' : Registry} {es : List Event} {n : String} {f : Failpoint}

/-- Every failpoint is sound. -/
def Sound (r : Registry) : Prop := ∀ f ∈ r.failpoints, f.Sound

theorem Sound.modify (h : r.Sound) {change : Failpoint → Failpoint}
    (hchange : ∀ f ∈ r.failpoints, (change f).Sound) : (r.modify n change).Sound := by
  intro f hf
  obtain ⟨g, hg, rfl⟩ := List.mem_map.1 hf
  split
  · exact hchange g hg
  · exact h g hg

theorem Step.sound (h : Step r es r') (hr : r.Sound) : r'.Sound := by
  cases h with
  | install _ ht => exact hr.modify fun f _ => Failpoint.sound_install f ht
  | clear _ => exact hr.modify fun f _ => f.sound_clear
  | hit d hf => exact hr.modify fun _ _ => (hr _ (List.mem_of_find?_eq_some hf)).hit d
  | remark _ => exact hr

theorem Evolves.sound (h : Evolves r es r') (hr : r.Sound) : r'.Sound := by
  induction h with
  | refl => exact hr
  | step hstep _ ih => exact ih (hstep.sound hr)

theorem Fresh.sound (hr : Fresh r) : r.Sound := by
  intro f hf
  rw [hr.disabled f hf]
  exact Failpoint.sound_disabled f.name

/-- A step under another name, or one that is no install, is followed. -/
theorem Step.follows (h : Step r es r') (hf : r.find? n = some f) : ∃ f', r'.find? n = some f' ∧
    ((∀ spec, Event.enabled n spec ∉ es) → Failpoint.Follows (Event.disabled n ∈ es) f f') := by
  cases h with
  | @install m spec _ t hm ht =>
    refine ⟨_, find?_modify_of_find? (keepsName_install t) hf, fun hno => ?_⟩
    have hne : n ≠ m := by
      rintro rfl
      exact hno spec (by simp)
    exact .same (if_neg hne)
  | @clear m _ hm =>
    refine ⟨_, find?_modify_of_find? keepsName_clear hf, fun _ => ?_⟩
    split
    · next hnm =>
      subst hnm
      exact .cleared (List.mem_singleton_self _) rfl rfl
    · exact .same rfl
  | @hit m g d hm =>
    -- The failpoint that was found under the name is the one that is hit.
    refine ⟨_, find?_modify_of_find? (keepsName_hit hm d) hf, fun _ => ?_⟩
    split
    · next hnm =>
      subst hnm
      obtain rfl := Option.some.inj (hf.symm.trans hm)
      exact Failpoint.follows_hit _ f d
    · exact .same rfl
  | remark _ => exact ⟨f, hf, fun _ => .same rfl⟩

theorem Evolves.follows (h : Evolves r es r') (hf : r.find? n = some f) : ∃ f', r'.find? n = some f' ∧
    ((∀ spec, Event.enabled n spec ∉ es) → Failpoint.Follows (Event.disabled n ∈ es) f f') := by
  induction h generalizing f with
  | refl => exact ⟨f, hf, fun _ => .same rfl⟩
  | step hstep _ ih =>
    obtain ⟨f₁, hf₁, hfollows⟩ := hstep.follows hf
    obtain ⟨f', hf', hfollows'⟩ := ih hf₁
    refine ⟨f', hf', fun hno => ?_⟩
    have hfirst := hfollows fun spec hmem => hno spec (List.mem_append_left _ hmem)
    have hlater := hfollows' fun spec hmem => hno spec (List.mem_append_right _ hmem)
    simpa only [List.mem_append] using hfirst.trans hlater

end Registry

end FaultInjection
