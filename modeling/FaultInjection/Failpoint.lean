import FaultInjection.Error
import FaultInjection.Position
import FaultInjection.Term.Parser

/-!
# A failpoint

A failpoint is disabled or has a term installed. While it has one it counts its hits and holds its place in
the term; installing a term or clearing the failpoint sets both back.
-/

namespace FaultInjection

/-- A named place at which behaviour can be injected: the installed term, the place in it, and the hits since
it was installed.

The count stands for a word of sixty-four bits, and is that word as long as a term is hit fewer than 2 ^ 64
times. -/
structure Failpoint where
  name : Name
  installed : Option Term
  position : Position
  hits : Nat
  deriving DecidableEq

/-- What a failpoint shows of itself at one moment. -/
structure Snapshot where
  name : String
  enabled : Bool
  term : String
  hits : Nat
  deriving DecidableEq, Repr

namespace Failpoint

/-- A disabled failpoint. -/
def disabled (name : Name) : Failpoint := ⟨name, none, Position.origin, 0⟩

/-- Whether a term is installed. -/
def isEnabled (f : Failpoint) : Bool := f.installed.isSome

/-- Install a term, at its start and without hits. -/
def install (f : Failpoint) (t : Term) : Failpoint :=
  { f with installed := some t, position := Position.start t, hits := 0 }

/-- Remove the term, and set the place and the hits back. -/
def clear (f : Failpoint) : Failpoint := { f with installed := none, position := Position.origin, hits := 0 }

/-- The text of the installed term. -/
def term (f : Failpoint) : Except RegistryError String :=
  match f.installed with
  | none => .error .disabled
  | some t => .ok t.display

/-- The hits since the term was installed. -/
def count (f : Failpoint) : Except RegistryError Nat :=
  match f.installed with
  | none => .error .disabled
  | some _ => .ok f.hits

/-- The text of the installed term, empty without one. -/
def termText (f : Failpoint) : String :=
  match f.installed with
  | none => ""
  | some t => t.display

/-- What the failpoint shows of itself. -/
def snapshot (f : Failpoint) : Snapshot :=
  match f.installed with
  | none => ⟨f.name.text, false, "", 0⟩
  | some t => ⟨f.name.text, true, t.display, f.hits⟩

/-- Record a hit: the selected action, the failpoint after it, and the draws that are left. Nothing is recorded
without a term. -/
def hit (f : Failpoint) (d : Draws) : Except RegistryError Action × Failpoint × Draws :=
  match f.installed with
  | none => (.error .disabled, f, d)
  | some t =>
    let (action, position, d) := f.position.advance t d
    (.ok action, { f with position := position, hits := f.hits + 1 }, d)

end Failpoint

end FaultInjection
