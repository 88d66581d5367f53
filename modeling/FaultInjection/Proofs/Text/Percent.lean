import FaultInjection.Proofs.Text.Utf8
import FaultInjection.Text.Percent

/-!
# Percent signs read back

A text in which some characters are percent-encoded, the percent sign among them, is read back as it was
(`decode_encode`), and holds no other character than those left alone, percent signs and upper-case
digits (`mem_encode`).
-/

namespace FaultInjection.Text.Percent

/-! ## One byte -/

/-- The digit of a number is one byte, and reads as the number. -/
theorem hexByte?_upperHex {n : Nat} (h : n < 16) :
    ∃ b, String.utf8EncodeChar (upperHex n) = [b] ∧ hexByte? b = some n := by
  have hall : ∀ n < 16, String.utf8EncodeChar (upperHex n) = [UInt8.ofNat (upperHex n).toNat] ∧
      hexByte? (UInt8.ofNat (upperHex n).toNat) = some n := by decide
  exact ⟨_, hall n h⟩

theorem decode_cons_of_ne {b : UInt8} (h : b ≠ 0x25) (bs : List UInt8) :
    decode (b :: bs) = b :: decode bs := by
  rw [decode]
  intro hi lo rest hb _
  exact h hb

theorem decode_append_of_ne {as : List UInt8} (h : ∀ b ∈ as, b ≠ 0x25) (bs : List UInt8) :
    decode (as ++ bs) = as ++ decode bs := by
  induction as with
  | nil => rfl
  | cons a as ih =>
    obtain ⟨ha, htail⟩ := List.forall_mem_cons.1 h
    rw [List.cons_append, decode_cons_of_ne ha, ih htail, List.cons_append]

/-- An encoded byte is read as the byte. -/
theorem decode_encodeByte (b : UInt8) (bs : List UInt8) :
    decode (Utf8.encode (encodeByte b) ++ bs) = b :: decode bs := by
  have hlt : b.toNat < 256 := b.toNat_lt
  obtain ⟨hi, hhi, hhigh⟩ := hexByte?_upperHex (n := b.toNat / 16) (by omega)
  obtain ⟨lo, hlo, hlow⟩ := hexByte?_upperHex (n := b.toNat % 16) (by omega)
  have hmark : String.utf8EncodeChar '%' = [0x25] := by decide
  have hbytes : Utf8.encode (encodeByte b) = [0x25, hi, lo] := by
    simp [encodeByte, Utf8.encode, hhi, hlo, hmark]
  have hvalue : 16 * (b.toNat / 16) + b.toNat % 16 = b.toNat := by omega
  rw [hbytes, List.cons_append, List.cons_append, List.cons_append, List.nil_append, decode, hhigh, hlow]
  dsimp only
  rw [hvalue, UInt8.ofNat_toNat]

theorem decode_encodeBytes (as bs : List UInt8) :
    decode (Utf8.encode (as.flatMap encodeByte) ++ bs) = as ++ decode bs := by
  induction as with
  | nil => rfl
  | cons a as ih =>
    rw [List.flatMap_cons, Utf8.encode_append, List.append_assoc, decode_encodeByte, ih, List.cons_append]

/-! ## A text -/

/-- No byte of another character is a percent sign. -/
theorem ne_of_mem_utf8EncodeChar {c : Char} (hc : c ≠ '%') : ∀ b ∈ String.utf8EncodeChar c, b ≠ 0x25 := by
  intro b hb
  rcases Utf8.ascii_or_high c with ⟨hlow, hbytes⟩ | ⟨-, hhigh⟩
  · rw [hbytes, List.mem_singleton] at hb
    rintro rfl
    have hvalue := congrArg UInt8.toNat hb
    rw [UInt8.toNat_ofNat', Nat.mod_eq_of_lt (by omega)] at hvalue
    exact hc (Char.ext (UInt32.toNat_inj.1 hvalue.symm))
  · rintro rfl
    exact absurd (hhigh _ hb) (by decide)

/-- What is percent-encoded together with the percent sign is read back. -/
theorem decode_encode {escape : Char → Bool} (h : escape '%' = true) (cs : List Char) :
    decode (Utf8.encode (encode escape cs)) = Utf8.encode cs := by
  induction cs with
  | nil => rfl
  | cons c cs ih =>
    rw [encode, List.flatMap_cons, Utf8.encode_append, Utf8.encode_cons c cs]
    by_cases hc : escape c = true
    · rw [if_pos hc, decode_encodeBytes]
      exact congrArg _ ih
    · have hne : c ≠ '%' := fun heq => hc (heq ▸ h)
      rw [if_neg hc, Utf8.encode_cons, Utf8.encode_nil, List.append_nil,
        decode_append_of_ne (ne_of_mem_utf8EncodeChar hne)]
      exact congrArg _ ih

/-- A character of an encoded text: one that is left alone, or one of an encoded byte. -/
theorem mem_encode {escape : Char → Bool} {cs : List Char} {c : Char} (h : c ∈ encode escape cs) :
    (c ∈ cs ∧ escape c = false) ∨ c = '%' ∨ ∃ n < 16, c = upperHex n := by
  obtain ⟨d, hd, hc⟩ := List.mem_flatMap.1 h
  by_cases hescape : escape d = true
  · rw [if_pos hescape] at hc
    obtain ⟨b, -, hb⟩ := List.mem_flatMap.1 hc
    have hlt : b.toNat < 256 := b.toNat_lt
    simp only [encodeByte, List.mem_cons, List.not_mem_nil, or_false] at hb
    rcases hb with rfl | rfl | rfl
    · exact .inr (.inl rfl)
    · exact .inr (.inr ⟨_, by omega, rfl⟩)
    · exact .inr (.inr ⟨_, by omega, rfl⟩)
  · rw [if_neg hescape, List.mem_singleton] at hc
    subst hc
    exact .inl ⟨hd, Bool.eq_false_iff.2 hescape⟩

theorem length_encode_le (escape : Char → Bool) (cs : List Char) :
    (encode escape cs).length ≤ 12 * cs.length := by
  have hbytes : ∀ bs : List UInt8, (bs.flatMap encodeByte).length = 3 * bs.length := by
    intro bs
    induction bs with
    | nil => rfl
    | cons b bs ih =>
      rw [List.flatMap_cons, List.length_append, ih, List.length_cons]
      show 3 + 3 * bs.length = _
      omega
  induction cs with
  | nil => simp [encode]
  | cons c cs ih =>
    have hone : (if escape c then (String.utf8EncodeChar c).flatMap encodeByte else [c]).length ≤ 12 := by
      have hc := c.utf8Size_le_four
      split
      · rw [hbytes, String.length_utf8EncodeChar]
        omega
      · simp
    have hsplit : (encode escape (c :: cs)).length =
        (if escape c then (String.utf8EncodeChar c).flatMap encodeByte else [c]).length +
          (encode escape cs).length := by rw [encode, List.flatMap_cons, List.length_append, encode]
    rw [hsplit, List.length_cons]
    omega

end FaultInjection.Text.Percent
