/-!
# UTF-8 as lists of bytes

`encode` and `decode?` relate a text to its bytes; the second refuses ill-formed bytes.
`decodeLossy` accepts any bytes: each maximal part that could have begun a character but did not
complete one becomes a single U+FFFD, as the Unicode Standard recommends.
-/

namespace FaultInjection.Text.Utf8

/-- The bytes of a text. -/
def encode (cs : List Char) : List UInt8 := cs.flatMap String.utf8EncodeChar

/-- The text whose bytes these are, if there is one. -/
def decode? (bs : List UInt8) : Option String := String.fromUTF8? (ByteArray.mk bs.toArray)

/-- The bytes of a string. -/
def bytes (s : String) : List UInt8 := s.toUTF8.data.toList

/-- The number of continuation bytes that a first byte asks for, the least and greatest first
continuation byte it admits, and the bits it contributes. -/
def leading? (b : UInt8) : Option (Nat × Nat × Nat × Nat) :=
  let n := b.toNat
  if n < 0x80 then some (0, 0, 0, n)
  else if 0xC2 ≤ n ∧ n ≤ 0xDF then some (1, 0x80, 0xBF, n - 0xC0)
  else if n = 0xE0 then some (2, 0xA0, 0xBF, 0)
  else if n = 0xED then some (2, 0x80, 0x9F, 13)
  else if 0xE1 ≤ n ∧ n ≤ 0xEF then some (2, 0x80, 0xBF, n - 0xE0)
  else if n = 0xF0 then some (3, 0x90, 0xBF, 0)
  else if 0xF1 ≤ n ∧ n ≤ 0xF3 then some (3, 0x80, 0xBF, n - 0xF0)
  else if n = 0xF4 then some (3, 0x80, 0x8F, 4)
  else none

/-- What a scan expects: a first byte, or so many more continuation bytes, the next within bounds,
with the bits gathered so far. -/
inductive Expect where
  | first
  | more (missing : Nat) (least greatest : Nat) (gathered : Nat)

/-- Read bytes as characters, putting U+FFFD for each part that is no character. -/
def lossy : Expect → List UInt8 → List Char
  | .first, [] => []
  | .more .., [] => ['\uFFFD']
  | .first, b :: bs =>
    match leading? b with
    | none => '\uFFFD' :: lossy .first bs
    | some (0, _, _, bits) => Char.ofNat bits :: lossy .first bs
    | some (missing, least, greatest, bits) => lossy (.more missing least greatest bits) bs
  | .more missing least greatest gathered, b :: bs =>
    if least ≤ b.toNat ∧ b.toNat ≤ greatest then
      let bits := gathered * 64 + (b.toNat - 0x80)
      if missing ≤ 1 then Char.ofNat bits :: lossy .first bs
      else lossy (.more (missing - 1) 0x80 0xBF bits) bs
    else
      '\uFFFD' ::
        match leading? b with
        | none => '\uFFFD' :: lossy .first bs
        | some (0, _, _, bits) => Char.ofNat bits :: lossy .first bs
        | some (missing, least, greatest, bits) => lossy (.more missing least greatest bits) bs

/-- The text of any bytes, with U+FFFD where they are ill-formed. -/
def decodeLossy (bs : List UInt8) : String := String.ofList (lossy .first bs)

theorem decode?_bytes (s : String) : decode? (bytes s) = some s := by
  have h : ByteArray.mk s.toUTF8.data.toList.toArray = s.toUTF8 := by simp
  rw [decode?, bytes, h, String.fromUTF8?, dif_pos (show s.toUTF8.IsValidUTF8 from s.isValidUTF8)]
  rfl

theorem bytes_of_decode? {bs : List UInt8} {s : String} (h : decode? bs = some s) : bytes s = bs := by
  rw [decode?, String.fromUTF8?] at h
  split at h
  · obtain rfl := Option.some.inj h
    simp [bytes, String.fromUTF8]
  · simp at h

end FaultInjection.Text.Utf8
