/-!
# Finite double-precision numbers

A finite binary64 number is kept as its sign and the remaining sixty-three bits of its format, read
as a natural number, its magnitude. Magnitudes are ordered as the numbers they stand for.
`units` is the exact absolute value as a multiple of two to the power of minus 1074, so that every
statement about values is one about natural numbers.

`nearestMagnitude` rounds a quotient of natural numbers to the nearest magnitude, a tie to the
neighbour with an even last bit.
-/

namespace FaultInjection.Decimal

/-- The magnitude that stands for infinity; those of finite numbers lie below it. -/
def infinityMagnitude : Nat := 0x7FF0000000000000

/-- A finite binary64 number. -/
structure Binary64 where
  negative : Bool
  magnitude : Nat
  magnitude_lt : magnitude < infinityMagnitude
  deriving DecidableEq

namespace Binary64

/-- The sixty-four bits of the format, as a number. -/
def bits (x : Binary64) : Nat := (if x.negative then Nat.pow 2 63 else 0) + x.magnitude

/-- The absolute value that a magnitude stands for, in units of two to the power of minus 1074. -/
def unitsOf (magnitude : Nat) : Nat :=
  let exponent := magnitude / Nat.pow 2 52
  let fraction := magnitude % Nat.pow 2 52
  if exponent = 0 then fraction else (Nat.pow 2 52 + fraction) * Nat.pow 2 (exponent - 1)

/-- The absolute value, in units of two to the power of minus 1074. -/
def units (x : Binary64) : Nat := unitsOf x.magnitude

/-- Order key: numbers compare as their keys, and both zeros have the key zero. -/
def key (x : Binary64) : Int := if x.negative then -(x.magnitude : Int) else x.magnitude

/-- Whether `x` is less than `y`. -/
def lt (x y : Binary64) : Bool := decide (x.key < y.key)

/-- Zero with a sign. -/
def signedZero (negative : Bool) : Binary64 := ⟨negative, 0, by decide⟩

/-- Positive zero. -/
def zero : Binary64 := signedZero false

/-- The number one hundred. -/
def hundred : Binary64 := ⟨false, 0x4059000000000000, by decide⟩

/-- The number fifty. -/
def fifty : Binary64 := ⟨false, 0x4049000000000000, by decide⟩

instance : Inhabited Binary64 := ⟨zero⟩

end Binary64

/-- The quotient rounded to the nearest natural number, a tie to the even one. -/
def roundHalfEven (num den : Nat) : Nat :=
  let q := num / den
  let twice := 2 * (num % den)
  if twice < den ∨ (twice = den ∧ q % 2 = 0) then q else q + 1

/-- The magnitude nearest to the quotient, possibly that of infinity or more. -/
def nearestMagnitude (num den : Nat) : Nat :=
  let scaled := num * Nat.pow 2 1074
  let shift := Nat.log2 (scaled / den) - 52
  shift * Nat.pow 2 52 + roundHalfEven scaled (den * Nat.pow 2 shift)

/-- The finite number nearest to a quotient, unless that rounds to infinity. -/
def Binary64.nearest? (negative : Bool) (num den : Nat) : Option Binary64 :=
  if h : nearestMagnitude num den < infinityMagnitude then
    some ⟨negative, nearestMagnitude num den, h⟩
  else none

end FaultInjection.Decimal
