import FaultInjection.Decimal.Binary64
import FaultInjection.Decimal.Bounds

/-!
# Decimal numerals

Digits and their values, and the reading of decimal text as an exact number: sign, digits with at
most one point, and an optional power of ten. `Numeral.toBinary64?` rounds such a number to the
nearest finite double.
-/

namespace FaultInjection.Decimal

/-- Whether a character is an ASCII digit. -/
def isDigit (c : Char) : Bool := '0' ≤ c && c ≤ '9'

/-- The value of an ASCII digit. -/
def digitValue (c : Char) : Nat := c.toNat - 0x30

/-- The number that a row of digits denotes. -/
def digitsValue (cs : List Char) : Nat := cs.foldl (fun n c => 10 * n + digitValue c) 0

/-- The number that a non-empty row of digits denotes. -/
def natural? (cs : List Char) : Option Nat :=
  if cs ≠ [] ∧ cs.all isDigit then some (digitsValue cs) else none

/-- The digits of a number. -/
def naturalDigits (n : Nat) : List Char := Nat.toDigits 10 n

/-- The leading digits of a text and what follows them. -/
def spanDigits (cs : List Char) : List Char × List Char := (cs.takeWhile isDigit, cs.dropWhile isDigit)

/-- A natural number below `bound`, written with digits and an optional plus sign. -/
def unsigned? (bound : Nat) (cs : List Char) : Option Nat :=
  let digits := match cs with
    | '+' :: ds => ds
    | ds => ds
  (natural? digits).filter (· < bound)

/-- An integer of sixty-four bits, written with digits and an optional sign. -/
def signed? (cs : List Char) : Option Int :=
  match cs with
  | '-' :: ds => ((natural? ds).filter (· ≤ signedBound)).map fun n => -(n : Int)
  | '+' :: ds => ((natural? ds).filter (· < signedBound)).map Int.ofNat
  | ds => ((natural? ds).filter (· < signedBound)).map Int.ofNat

/-- The decimal number `coefficient * 10 ^ exponent` with a sign. -/
structure Numeral where
  negative : Bool
  coefficient : Nat
  exponent : Int
  deriving DecidableEq, Repr

namespace Numeral

/-- The nearest finite double. The guards settle exponents whose outcome no coefficient of so many
bits can change, without computing the power. -/
def toBinary64? (x : Numeral) : Option Binary64 :=
  if x.coefficient = 0 then some (.signedZero x.negative)
  else if 310 < x.exponent then none
  else if x.exponent + Nat.log2 x.coefficient < -400 then some (.signedZero x.negative)
  else match x.exponent with
    | .ofNat e => Binary64.nearest? x.negative (x.coefficient * Nat.pow 10 e) 1
    | .negSucc e => Binary64.nearest? x.negative x.coefficient (Nat.pow 10 (e + 1))

/-- Read digits with at most one point; at least one digit has to be there. -/
def unsigned? (negative : Bool) (cs : List Char) : Option (Numeral × List Char) :=
  let (whole, rest) := spanDigits cs
  let (fraction, rest) := match rest with
    | '.' :: ds => spanDigits ds
    | ds => ([], ds)
  if whole.isEmpty && fraction.isEmpty then none
  else some (⟨negative, digitsValue (whole ++ fraction), -(fraction.length : Int)⟩, rest)

/-- Read an optional sign and an unsigned numeral. -/
def plain? (cs : List Char) : Option (Numeral × List Char) :=
  match cs with
  | '-' :: ds => unsigned? true ds
  | '+' :: ds => unsigned? false ds
  | ds => unsigned? false ds

/-- Multiply by a power of ten. -/
def scale (x : Numeral) (e : Int) : Numeral := { x with exponent := x.exponent + e }

/-- The power of ten that follows a numeral: the letter e in either case, an optional sign, digits. -/
def power? (cs : List Char) : Option Int :=
  match cs with
  | [] => some 0
  | c :: ds =>
    if c = 'e' ∨ c = 'E' then
      match ds with
      | '-' :: ds => (natural? ds).map fun n => -(n : Int)
      | '+' :: ds => (natural? ds).map Int.ofNat
      | ds => (natural? ds).map Int.ofNat
    else none

/-- A whole text as a decimal number with an optional power of ten. -/
def read? (cs : List Char) : Option Numeral :=
  match plain? cs with
  | none => none
  | some (x, rest) => (power? rest).map x.scale

end Numeral

end FaultInjection.Decimal
