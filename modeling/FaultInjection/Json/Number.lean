import FaultInjection.Decimal.Numeral

/-!
# Numbers in JSON

A number is kept as it is written. `Number.integer?` is its value when it is written as an integer
of at most sixty-four bits. `Number.double?` is the double that readers of JSON take it for: as
many digits as fit into sixty-four bits are rounded to a double, which is then multiplied or divided
by a rounded power of ten. It may lie one step beside the nearest double.
-/

namespace FaultInjection.Json

open Decimal

/-- The parts of a number as written. -/
structure Number where
  negative : Bool
  whole : List Char
  fraction : List Char
  power : Option Int
  deriving DecidableEq, Repr

namespace Number

/-- The value of a number that is written as an integer and fits into sixty-four bits. A minus sign
before a zero asks for the negative zero, which is no integer. -/
def integer? (n : Number) : Option Int :=
  if n.fraction.isEmpty && n.power.isNone then
    let value := digitsValue n.whole
    if n.negative then if 0 < value ∧ value ≤ signedBound then some (-(value : Int)) else none
    else if value < wordBound then some value else none
  else none

/-- Take digits behind a significand as long as it stays below sixty-four bits: the significand, and
the digits that were left. -/
def takeDigits (significand : Nat) : List Char → Nat × List Char
  | [] => (significand, [])
  | c :: cs =>
    let next := 10 * significand + digitValue c
    if next < wordBound then takeDigits next cs else (significand, c :: cs)

/-- The significand and the power of ten it is scaled by. Digits of the whole part that do not fit
count as places; those of the fraction are dropped. -/
def scaled (n : Number) : Nat × Int :=
  let (head, dropped) := takeDigits 0 n.whole
  let (significand, left) := takeDigits head n.fraction
  let taken := n.fraction.length - left.length
  (significand, (dropped.length : Int) - taken + n.power.getD 0)

/-- The rounded power of ten with an exponent up to 308. -/
def powerOfTen (e : Nat) : Binary64 := (Binary64.nearest? false (Nat.pow 10 e) 1).getD .zero

/-- The rounded product of two doubles, the second one positive. -/
def times? (x y : Binary64) : Option Binary64 :=
  Binary64.nearest? x.negative (x.units * y.units) (Nat.pow 2 2148)

/-- The rounded quotient of two doubles, the second one positive and at least one. -/
def over? (x y : Binary64) : Option Binary64 := Binary64.nearest? x.negative x.units y.units

/-- A double scaled by a power of ten. Below the least power it takes two divisions, and a third one
leaves nothing of any significand. -/
def scaleBy? (x : Binary64) (e : Int) : Option Binary64 :=
  match e with
  | .ofNat e => if e ≤ 308 then times? x (powerOfTen e) else if x.magnitude = 0 then some x else none
  | .negSucc e =>
    let e := e + 1
    if e ≤ 308 then over? x (powerOfTen e)
    else if e ≤ 616 then (over? x (powerOfTen 308)).bind fun x => over? x (powerOfTen (e - 308))
    else some (.signedZero x.negative)

/-- The double that a number is read as, unless it is beyond the finite ones. -/
def double? (n : Number) : Option Binary64 :=
  let (significand, e) := n.scaled
  (Binary64.nearest? n.negative significand 1).bind fun x => scaleBy? x e

end Number

end FaultInjection.Json
