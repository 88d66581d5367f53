import FaultInjection.Decimal.Shortest

/-!
# Writing a double

A `Format` says how the shortest digits of a double are laid out: for which positions of the
leading digit they are written plainly, whether a plain whole number ends in a point and a zero,
whether a positive power of ten has a sign, and how ties go. `display` is the format of
displayed literals, `json` that of JSON, and `positional` writes every number plainly.
-/

namespace FaultInjection.Decimal

/-- How the digits of a double are laid out. -/
structure Format where
  tie : Tie
  /-- Leading digits at these powers of ten are written plainly. -/
  plain : Int → Bool
  pointZero : Bool
  powerSign : Bool

namespace Format

/-- Plain from a ten-thousandth up to ten to the sixteenth, otherwise with a power of ten. -/
def display : Format := ⟨.up, fun k => -4 ≤ k && k < 16, true, false⟩

/-- Plain from a hundred-thousandth up to ten to the sixteenth, otherwise with a signed power. -/
def json : Format := ⟨.even, fun k => -5 ≤ k && k < 16, true, true⟩

/-- Plain always, and whole numbers without a point. -/
def positional : Format := ⟨.up, fun _ => true, false, false⟩

/-- Digits with the point after the first `whole` of them, zeros filling up where digits lack. -/
def layPlain (pointZero : Bool) (digits : List Char) (whole : Int) : List Char :=
  match whole with
  | .ofNat w =>
    if w = 0 then ['0', '.'] ++ digits
    else if w < digits.length then digits.take w ++ ['.'] ++ digits.drop w
    else digits ++ List.replicate (w - digits.length) '0' ++ (if pointZero then ['.', '0'] else [])
  | .negSucc w => ['0', '.'] ++ List.replicate (w + 1) '0' ++ digits

/-- Digits with the point after the first of them, and a power of ten. -/
def layPower (powerSign : Bool) (digits : List Char) (power : Int) : List Char :=
  let mantissa := match digits with
    | d :: e :: ds => d :: '.' :: e :: ds
    | ds => ds
  let sign := if power < 0 then ['-'] else if powerSign then ['+'] else []
  mantissa ++ ['e'] ++ sign ++ naturalDigits power.natAbs

/-- The text of a double. -/
def write (f : Format) (x : Binary64) : List Char :=
  let sign := if x.negative then ['-'] else []
  if x.magnitude = 0 then sign ++ layPlain f.pointZero ['0'] 1
  else
    let s := shortest f.tie x.magnitude
    let digits := naturalDigits s.coefficient
    let power : Int := s.exponent + digits.length - 1
    sign ++ (if f.plain power then layPlain f.pointZero digits (power + 1)
      else layPower f.powerSign digits power)

end Format

end FaultInjection.Decimal
