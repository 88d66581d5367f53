import FaultInjection.Term.Basic

/-!
# Walking a term

A `Position` is the active segment of a term and how often it will still fire. `Position.advance`
takes one hit: a segment with a percentage fires when the next draw lies below it, and a count that
is used up hands over to the next segment, or starts again at the last one. Draws come from an
endless sequence, of which `Draws.taken` have been used.
-/

namespace FaultInjection

open Decimal

/-- An endless sequence of draws between zero and one hundred, and how many have been taken. -/
structure Draws where
  sequence : Nat → Binary64
  taken : Nat

namespace Draws

/-- The same draw for ever. -/
def constant (x : Binary64) : Draws := ⟨fun _ => x, 0⟩

/-- The listed draws, then zero for ever. -/
def ofList (xs : List Binary64) : Draws := ⟨fun i => xs.getD i Binary64.zero, 0⟩

/-- The next draw, and the supply without it. -/
def next (d : Draws) : Binary64 × Draws := (d.sequence d.taken, { d with taken := d.taken + 1 })

end Draws

/-- The active segment of a term and the firings it has left, zero for one without a count. -/
structure Position where
  index : Nat
  remaining : Nat
  deriving DecidableEq, Repr

namespace Position

/-- The first segment with nothing left; where a disabled failpoint stands. -/
def origin : Position := ⟨0, 0⟩

/-- Where a segment is entered: its full count. -/
def entering (index : Nat) (segment : Segment) : Position := ⟨index, segment.count.getD 0⟩

/-- The position at which a term is installed. -/
def start (t : Term) : Position :=
  match t.segments with
  | [] => origin
  | s :: _ => entering 0 s

/-- Whether a segment fires on this hit. A draw is taken only if it has a percentage. -/
def fires (s : Segment) (d : Draws) : Bool × Draws :=
  match s.percentage with
  | none => (true, d)
  | some p => let (x, d) := d.next; (x.lt p, d)

/-- The position after a firing of the active segment. -/
def afterFiring (t : Term) (p : Position) (s : Segment) : Position :=
  match s.count with
  | none => p
  | some _ =>
    if 1 < p.remaining then { p with remaining := p.remaining - 1 }
    else
      match t.segments[p.index + 1]? with
      | some following => entering (p.index + 1) following
      | none => entering p.index s

/-- The action for one hit, the position after it, and the draws that are left. -/
def advance (t : Term) (p : Position) (d : Draws) : Action × Position × Draws :=
  match t.segments[p.index]? with
  | none => (.off, p, d)
  | some s =>
    let (fired, d) := fires s d
    if fired then (s.action, afterFiring t p s, d) else (.off, p, d)

end Position

end FaultInjection
