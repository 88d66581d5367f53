import FaultInjection.Decimal.Numeral

/-!
# The fewest digits that read back

`shortest` gives, for a positive magnitude, a coefficient and a power of ten. For one digit, two
digits and so on it looks at the two decimal neighbours of the number with so many digits. The
first count for which one of them rounds back to the magnitude wins; if both do, the nearer one is
taken, and a tie goes as `Tie` says. The exact expansion stands behind the search, so the result
always rounds back.
-/

namespace FaultInjection.Decimal

/-- Which of two equally near decimals is taken. -/
inductive Tie where
  | up
  | even
  deriving DecidableEq, Repr

/-- A coefficient times a power of ten. -/
structure Scaled where
  coefficient : Nat
  exponent : Int
  deriving DecidableEq, Repr

namespace Scaled

/-- Numerator and denominator of the value. -/
def ratio (s : Scaled) : Nat × Nat :=
  match s.exponent with
  | .ofNat e => (s.coefficient * Nat.pow 10 e, 1)
  | .negSucc e => (s.coefficient, Nat.pow 10 (e + 1))

/-- Whether the value rounds to a magnitude. -/
def roundsTo (s : Scaled) (magnitude : Nat) : Bool :=
  nearestMagnitude s.ratio.1 s.ratio.2 == magnitude

/-- The same value without zeros at the end of the coefficient; `fuel` bounds their number. -/
def strip : Nat → Scaled → Scaled
  | 0, s => s
  | fuel + 1, s =>
    if s.coefficient % 10 = 0 ∧ s.coefficient ≠ 0 then
      strip fuel ⟨s.coefficient / 10, s.exponent + 1⟩
    else s

end Scaled

/-- The least power of ten at which digits of a number are looked at, as a positive count. -/
def decimalPlaces : Nat := 400

/-- The exact value of a magnitude: it has a finite decimal expansion. -/
def exactScaled (magnitude : Nat) : Scaled := ⟨Binary64.unitsOf magnitude * Nat.pow 5 1074, -1074⟩

/-- The better of the two neighbours `low` and `low + 1` of `num / den`, by whether each of them reads back. -/
def betterNeighbour (tie : Tie) (num den low : Nat) (exponent : Int) (belowReads aboveReads : Bool) :
    Option Scaled :=
  let below : Scaled := ⟨low, exponent⟩
  let above : Scaled := ⟨low + 1, exponent⟩
  match belowReads, aboveReads with
  | true, true =>
    let middle := (2 * low + 1) * den
    if 2 * num < middle then some below
    else if middle < 2 * num then some above
    else match tie with
      | .up => some above
      | .even => some (if low % 2 = 0 then below else above)
  | true, false => some below
  | false, true => some above
  | false, false => none

/-- The better of the two neighbours `low` and `low + 1` of `num / den`, among those that read back. -/
def chooseNeighbour (tie : Tie) (magnitude : Nat) (num den low : Nat) (exponent : Int) : Option Scaled :=
  betterNeighbour tie num den low exponent (Scaled.roundsTo ⟨low, exponent⟩ magnitude)
    (Scaled.roundsTo ⟨low + 1, exponent⟩ magnitude)

/-- The neighbours with `count` digits, for a number of `digits` digits before the places. -/
def shortestWith (tie : Tie) (magnitude digits count : Nat) : Option Scaled :=
  let num := Binary64.unitsOf magnitude * Nat.pow 10 decimalPlaces
  let den := Nat.pow 2 1074 * Nat.pow 10 (digits - count)
  chooseNeighbour tie magnitude num den (num / den) ((digits : Int) - count - decimalPlaces)

/-- The fewest digits that read back as a positive magnitude. -/
def shortest (tie : Tie) (magnitude : Nat) : Scaled :=
  let whole := Binary64.unitsOf magnitude * Nat.pow 10 decimalPlaces / Nat.pow 2 1074
  let digits := (naturalDigits whole).length
  let found := (List.range' 1 17).findSome? (shortestWith tie magnitude digits)
  (found.getD (exactScaled magnitude)).strip 1200

end FaultInjection.Decimal
