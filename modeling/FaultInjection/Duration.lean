import FaultInjection.Decimal.Numeral
import FaultInjection.Text.Blank

/-!
# Durations

A duration is a number of nanoseconds. `Duration.parse` reads a text without regard to blanks
around it: digits alone are milliseconds, and otherwise the text is a row of components such as
`1m30s` or `1.5h`, each a decimal number directly followed by a unit. Fraction digits after the
eighteenth are dropped, and so is what is smaller than a nanosecond in each component.
-/

namespace FaultInjection

open Decimal Text

/-- A length of time in nanoseconds. -/
structure Duration where
  nanos : Nat
  deriving DecidableEq, Repr

/-- Why a text is no duration. -/
inductive DurationFault where
  | empty
  | malformed (text : String)
  | outOfRange (text : String)
  deriving DecidableEq, Repr

namespace DurationFault

/-- The particulars of a fault. -/
def detail : DurationFault → String
  | empty => "empty duration"
  | malformed text => text
  | outOfRange text => text ++ " is out of range"

end DurationFault

namespace Duration

/-- Whole milliseconds, rounded up. -/
def ceilMillis (d : Duration) : Nat := (d.nanos + 999999) / 1000000

/-- The nanoseconds of each unit. -/
def units : List (List Char × Nat) :=
  [(['n', 's'], 1), (['u', 's'], 1000), (['µ', 's'], 1000), (['m', 's'], 1000000),
    (['s'], 1000000000), (['m'], 60000000000), (['h'], 3600000000000)]

/-- The nanoseconds of a unit, if the text names one. -/
def nanosPerUnit? (name : List Char) : Option Nat := units.lookup name

theorem nanosPerUnit?_nil : nanosPerUnit? [] = none := rfl

/-- A number and a unit, as written. -/
structure Component where
  whole : List Char
  fraction : List Char
  unit : List Char
  deriving DecidableEq, Repr

/-- The first component of a text and what follows it. The unit runs up to the next digit or
point. -/
def splitComponent (cs : List Char) : Component × List Char :=
  let (whole, rest) := spanDigits cs
  let (fraction, rest) := match rest with
    | '.' :: ds => spanDigits ds
    | ds => ([], ds)
  let endsUnit := fun c => isDigit c || c == '.'
  (⟨whole, fraction, rest.takeWhile (! endsUnit ·)⟩, rest.dropWhile (! endsUnit ·))

/-- A number, if it fits into a hundred and twenty-eight bits. -/
def wide? (n : Nat) : Option Nat := if n < wideBound then some n else none

/-- The nanoseconds of a number with a unit, step by step: the whole part in full, and the first eighteen
digits of the fraction rounded down. All numbers have a hundred and twenty-eight bits. The power and the
product of the fraction are not checked and would lose the bits above them. -/
def stepwise? (whole fraction : List Char) (unit : Nat) : Option Nat := do
  let units ← wide? (digitsValue whole)
  let nanos ← wide? (units * unit)
  if fraction.isEmpty then some nanos
  else
    let digits := fraction.take 18
    let part ← wide? (digitsValue digits)
    wide? (nanos + part * unit % wideBound / (Nat.pow 10 digits.length % wideBound))

/-- The nanoseconds of a component. -/
def Component.nanos? (c : Component) : Option Nat :=
  if c.whole.isEmpty && c.fraction.isEmpty then none
  else (nanosPerUnit? c.unit).bind (stepwise? c.whole c.fraction)

theorem length_splitComponent_le (cs : List Char) :
    (splitComponent cs).1.unit.length + (splitComponent cs).2.length ≤ cs.length := by
  have hspan : ∀ (p : Char → Bool) (l : List Char),
      (l.takeWhile p).length + (l.dropWhile p).length = l.length := fun p l => by
    rw [← List.length_append, List.takeWhile_append_dropWhile]
  have h1 := hspan isDigit cs
  simp only [splitComponent, spanDigits]
  split
  · next ds hd =>
    have h2 := hspan isDigit ds
    have h3 := congrArg List.length hd
    simp only [List.length_cons] at h3
    dsimp only
    rw [hspan]
    omega
  · dsimp only
    rw [hspan]
    omega

theorem length_splitComponent_lt {cs : List Char} {n : Nat}
    (h : (splitComponent cs).1.nanos? = some n) : (splitComponent cs).2.length < cs.length := by
  have hle := length_splitComponent_le cs
  have hne : (splitComponent cs).1.unit ≠ [] := by
    intro he
    rw [Component.nanos?, he] at h
    split at h <;> simp [nanosPerUnit?_nil] at h
  have := List.length_pos_iff.2 hne
  omega

/-- Add up the components of `cs`; `text` is the whole text, for the fault. -/
def sumComponents (text : String) (total : Nat) (cs : List Char) : Except DurationFault Nat :=
  if cs = [] then .ok total
  else
    match _h : (splitComponent cs).1.nanos? with
    | none => .error (.malformed text)
    | some nanos =>
      if total + nanos < wideBound then sumComponents text (total + nanos) (splitComponent cs).2
      else .error (.outOfRange text)
termination_by cs.length
decreasing_by exact length_splitComponent_lt ‹_›

/-- Read a duration. -/
def parse (s : String) : Except DurationFault Duration :=
  let cs := trim s.toList
  let text := String.ofList cs
  if cs = [] then .error .empty
  else if cs.all isDigit then
    if digitsValue cs < wordBound then .ok ⟨digitsValue cs * 1000000⟩ else .error (.outOfRange text)
  else
    match sumComponents text 0 cs with
    | .error e => .error e
    | .ok nanos => if nanos < wordBound then .ok ⟨nanos⟩ else .error (.outOfRange text)

end Duration

end FaultInjection
