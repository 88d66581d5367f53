import FaultInjection.Decimal.Format

/-!
# Doubles with infinities

Settings may hold any double, also an infinity or the value that is no number. This module reads
such a value from text, shows it, and rounds it to a natural number.
-/

namespace FaultInjection.Decimal

/-- Any double. -/
inductive Extended where
  | finite (x : Binary64)
  | infinite (negative : Bool)
  | notANumber
  deriving DecidableEq

namespace Extended

/-- A numeral as the nearest double, infinite if it is too great. -/
def ofNumeral (x : Numeral) : Extended :=
  match x.toBinary64? with
  | some x => finite x
  | none => infinite x.negative

/-- The ASCII letters of a text in lower case. -/
def lowered (cs : List Char) : List Char := cs.map Char.toLower

/-- Read one of the words for an infinity or for no number, in any case. -/
def word? (negative : Bool) (cs : List Char) : Option Extended :=
  if lowered cs = "inf".toList ∨ lowered cs = "infinity".toList then some (infinite negative)
  else if lowered cs = "nan".toList then some notANumber
  else none

/-- Read a double: a decimal number or one of the words, with an optional sign. -/
def read? (cs : List Char) : Option Extended :=
  match Numeral.read? cs with
  | some x => some (ofNumeral x)
  | none =>
    match cs with
    | '-' :: ds => word? true ds
    | '+' :: ds => word? false ds
    | ds => word? false ds

/-- The text of a double, without a power of ten. -/
def display : Extended → String
  | finite x => String.ofList (Format.positional.write x)
  | infinite negative => if negative then "-inf" else "inf"
  | notANumber => "NaN"

/-- Whether the value equals zero. -/
def isZero : Extended → Bool
  | finite x => x.magnitude == 0
  | _ => false

/-- The nearest natural number up to `most`, a half going up; zero for what is negative or no number. -/
def roundNat (most : Nat) : Extended → Nat
  | finite x =>
    if x.negative then 0 else min most ((2 * x.units + Nat.pow 2 1074) / Nat.pow 2 1075)
  | infinite negative => if negative then 0 else most
  | notANumber => 0

end Extended

end FaultInjection.Decimal
