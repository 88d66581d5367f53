import FaultInjection.Text.QuoteScan
import FaultInjection.Text.Utf8

/-!
# Cutting a term into segments

The segments of a term are joined by the arrow, a minus sign and a greater-than sign, which does not
count inside a quoted string. The cut runs over the bytes of the text. Every byte that matters is
ASCII, and no byte of a longer character is, so the pieces are texts again.
-/

namespace FaultInjection.Chain

open Text

/-- The quotation mark, the backslash and the two bytes of the arrow. -/
def quoteByte : UInt8 := 0x22

@[inherit_doc quoteByte] def backslashByte : UInt8 := 0x5C

@[inherit_doc quoteByte] def dashByte : UInt8 := 0x2D

@[inherit_doc quoteByte] def headByte : UInt8 := 0x3E

/-- The state of the quote scan after one more byte. -/
def stepByte : QuoteState → UInt8 → QuoteState
  | .outside, b => if b = quoteByte then .inside else .outside
  | .inside, b => if b = backslashByte then .escaped else if b = quoteByte then .outside else .inside
  | .escaped, _ => .inside

/-- The state after a whole row of bytes. -/
def scanBytes (q : QuoteState) (bs : List UInt8) : QuoteState := bs.foldl stepByte q

/-- Put one byte in front of the first piece. -/
def pushByte (b : UInt8) : List (List UInt8) → List (List UInt8)
  | [] => [[b]]
  | p :: ps => (b :: p) :: ps

/-- The pieces between the arrows outside strings, unless the text ends inside a string. -/
def cut : QuoteState → List UInt8 → Option (List (List UInt8))
  | q, [] => if q = .outside then some [[]] else none
  | q, [b] => (cut (stepByte q b) []).map (pushByte b)
  | q, b :: c :: bs =>
    if q = .outside ∧ b = dashByte ∧ c = headByte then (cut .outside bs).map ([] :: ·)
    else (cut (stepByte q b) (c :: bs)).map (pushByte b)

/-- The parts of a chain as texts. -/
def split? (spec : String) : Option (List String) :=
  (cut .outside (Utf8.bytes spec)).bind fun parts => parts.mapM Utf8.decode?

end FaultInjection.Chain
