import FaultInjection.Text.Utf8

/-!
# Percent-encoding

A percent sign and two hexadecimal digits stand for one byte. `decode` reads them over bytes and
leaves a percent sign that no two such digits follow as it is; `encodeByte` writes one byte with
upper-case digits.
-/

namespace FaultInjection.Text.Percent

/-- The value of a hexadecimal digit, in either case. -/
def hexValue? (c : Char) : Option Nat :=
  let n := c.toNat
  if 0x30 ≤ n ∧ n ≤ 0x39 then some (n - 0x30)
  else if 0x41 ≤ n ∧ n ≤ 0x46 then some (n - 0x41 + 10)
  else if 0x61 ≤ n ∧ n ≤ 0x66 then some (n - 0x61 + 10)
  else none

/-- The value of a byte as a hexadecimal digit. -/
def hexByte? (b : UInt8) : Option Nat := hexValue? (Char.ofNat b.toNat)

/-- Read every percent sign that two hexadecimal digits follow as the byte they name. -/
def decode : List UInt8 → List UInt8
  | 0x25 :: hi :: lo :: rest =>
    match hexByte? hi, hexByte? lo with
    | some h, some l => UInt8.ofNat (16 * h + l) :: decode rest
    | _, _ => 0x25 :: decode (hi :: lo :: rest)
  | b :: rest => b :: decode rest
  | [] => []

/-- The upper-case hexadecimal digit of a number below sixteen. -/
def upperHex (n : Nat) : Char := Char.ofNat (if n < 10 then 0x30 + n else 0x41 + (n - 10))

/-- A byte as a percent sign and two upper-case digits. -/
def encodeByte (b : UInt8) : List Char := ['%', upperHex (b.toNat / 16), upperHex (b.toNat % 16)]

/-- A text in which every byte of the characters in `escape` is percent-encoded. -/
def encode (escape : Char → Bool) (cs : List Char) : List Char :=
  cs.flatMap fun c => if escape c then (String.utf8EncodeChar c).flatMap encodeByte else [c]

/-- A form-encoded part: a plus sign is a space, then percent signs are read. -/
def decodeForm (bs : List UInt8) : List UInt8 :=
  decode (bs.map fun b => if b = 0x2B then 0x20 else b)

end FaultInjection.Text.Percent
