import FaultInjection.Proofs.Position

/-!
# Which draws a walk sees

Only the draws that are still ahead matter to a term: `advance_congr` and `walk_congr`. A hit that
took some draws from one supply does the same, and leaves the same, wherever these draws come first:
`advance_prepend_drawn`. So the draws that hits took are all there is to replay them.
-/

namespace FaultInjection

open Decimal

namespace Draws

/-- The draws that have not been taken. -/
def ahead (d : Draws) (i : Nat) : Binary64 := d.sequence (d.taken + i)

/-- A supply with other draws in front of those that are ahead. -/
def prepend (xs : List Binary64) (d : Draws) : Draws := ⟨fun i => xs.getD i (d.ahead (i - xs.length)), 0⟩

/-- The draws taken between two states of a supply. -/
def drawn (d d' : Draws) : List Binary64 := (List.range (d'.taken - d.taken)).map d.ahead

theorem ahead_prepend (xs : List Binary64) (d : Draws) (i : Nat) :
    (prepend xs d).ahead i = xs.getD i (d.ahead (i - xs.length)) := by
  rw [ahead, prepend, Nat.zero_add]

theorem ahead_prepend_nil (d : Draws) : (prepend [] d).ahead = d.ahead := by
  funext i
  rw [ahead_prepend]
  rfl

theorem ahead_prepend_append (xs ys : List Binary64) (d : Draws) :
    (prepend (xs ++ ys) d).ahead = (prepend xs (prepend ys d)).ahead := by
  funext i
  rw [ahead_prepend, ahead_prepend, ahead_prepend]
  by_cases hi : i < xs.length
  · rw [List.getD_append _ _ _ _ hi, List.getD_eq_getElem _ _ hi, List.getD_eq_getElem _ _ hi]
  · have hi := Nat.not_lt.1 hi
    rw [List.getD_append_right _ _ _ _ hi, List.getD_eq_default _ _ hi, List.length_append, Nat.sub_sub]

theorem ahead_taken_add (d : Draws) (k i : Nat) :
    ({ d with taken := d.taken + k } : Draws).ahead i = d.ahead (k + i) := by
  rw [ahead, ahead, Nat.add_assoc]

theorem drawn_taken_add (d : Draws) (k : Nat) :
    drawn d { d with taken := d.taken + k } = (List.range k).map d.ahead := by
  rw [drawn, Nat.add_sub_cancel_left]

end Draws

namespace Position

open Draws

variable {t : Term} {p : Position} {d e : Draws} {s : Segment}

theorem fired_congr (h : d.ahead 0 = e.ahead 0) : fired s d = fired s e := by
  have h0 : d.sequence d.taken = e.sequence e.taken := h
  rw [fired, fired, h0]

/-- Hits agree on supplies with the same draws ahead, and leave the same ahead. -/
theorem advance_congr (h : d.ahead = e.ahead) :
    (p.advance t d).1 = (p.advance t e).1 ∧ (p.advance t d).2.1 = (p.advance t e).2.1 ∧
      (p.advance t d).2.2.ahead = (p.advance t e).2.2.ahead := by
  cases hs : t.segments[p.index]? with
  | none =>
    rw [advance_of_inactive hs, advance_of_inactive hs]
    exact ⟨rfl, rfl, h⟩
  | some s =>
    have hfired : fired s d = fired s e := fired_congr (congrFun h 0)
    have hahead : (fires s d).2.ahead = (fires s e).2.ahead := by
      funext i
      rw [fires_snd, fires_snd, ahead_taken_add, ahead_taken_add, h]
    by_cases hf : fired s d = true
    · rw [advance_of_fired hs hf, advance_of_fired hs (hfired ▸ hf)]
      exact ⟨rfl, rfl, hahead⟩
    · rw [advance_of_not_fired hs hf, advance_of_not_fired hs (hfired ▸ hf)]
      exact ⟨rfl, rfl, hahead⟩

theorem walk_congr (h : d.ahead = e.ahead) (n : Nat) :
    (walk t n p d).1 = (walk t n p e).1 ∧ (walk t n p d).2.ahead = (walk t n p e).2.ahead := by
  induction n generalizing p d e with
  | zero => exact ⟨rfl, h⟩
  | succ n ih =>
    obtain ⟨-, hp, hd⟩ := advance_congr (t := t) (p := p) h
    rw [walk, walk, hp]
    exact ih hd

/-- What a segment takes from a supply makes it fire, or not, in front of any other supply. -/
theorem fires_prepend_drawn (s : Segment) (d e : Draws) :
    let again := prepend (drawn d (fires s d).2) e
    fired s again = fired s d ∧ (fires s again).2.ahead = e.ahead := by
  rw [fires_snd, drawn_taken_add]
  dsimp only
  rw [fires_snd]
  cases hq : s.percentage with
  | none =>
    refine ⟨by rw [fired, fired, hq]; rfl, ?_⟩
    funext i
    rw [ahead_taken_add]
    exact congrFun (ahead_prepend_nil e) _ |>.trans (by simp)
  | some q =>
    refine ⟨fired_congr rfl, ?_⟩
    funext i
    rw [ahead_taken_add, ahead_prepend]
    simp

/-- The draws that a hit took make it again, in front of any supply. -/
theorem advance_prepend_drawn (t : Term) (p : Position) (d e : Draws) :
    let again := p.advance t (prepend (drawn d (p.advance t d).2.2) e)
    again.1 = (p.advance t d).1 ∧ again.2.1 = (p.advance t d).2.1 ∧ again.2.2.ahead = e.ahead := by
  cases hs : t.segments[p.index]? with
  | none =>
    rw [advance_of_inactive hs]
    dsimp only
    rw [advance_of_inactive hs, drawn, Nat.sub_self]
    exact ⟨rfl, rfl, ahead_prepend_nil e⟩
  | some s =>
    obtain ⟨hfired, hahead⟩ := fires_prepend_drawn s d e
    rw [advance_draws hs]
    by_cases hf : fired s d = true
    · rw [advance_of_fired hs hf]
      dsimp only
      rw [advance_of_fired hs (hfired.trans hf)]
      exact ⟨rfl, rfl, hahead⟩
    · rw [advance_of_not_fired hs hf]
      dsimp only
      rw [advance_of_not_fired hs (hfired ▸ hf)]
      exact ⟨rfl, rfl, hahead⟩

theorem walk_succ (t : Term) (n : Nat) (p : Position) (d : Draws) :
    walk t (n + 1) p d = ((walk t n p d).1.advance t (walk t n p d).2).2 := by
  induction n generalizing p d with
  | zero => rfl
  | succ n ih => exact ih (p.advance t d).2.1 (p.advance t d).2.2

end Position

end FaultInjection
