import FaultInjection.Proofs.Text.Utf8

/-!
# The order of texts is that of their bytes

Texts are compared character by character, and where they first differ the bytes of the greater character
are the greater ones: `encodeChar_append_lt`. So the order of strings is the order of their bytes in UTF-8,
`bytes_lt_bytes_iff`.
-/

namespace FaultInjection.Text.Utf8

/-- The bytes of two characters differ before either ends, in the order of the characters. -/
theorem encodeChar_append_lt {c d : Char} (h : c < d) (bs bs' : List UInt8) :
    String.utf8EncodeChar c ++ bs < String.utf8EncodeChar d ++ bs' := by
  have hv : c.val.toNat < d.val.toNat := UInt32.lt_iff_toNat_lt.1 (Char.lt_def.1 h)
  have hmax : d.val.toNat < 0x110000 := by
    have hvalid := d.valid
    omega
  have hdigits : ∀ v : Nat, v / 64 / 64 = v / 4096 ∧ v / 4096 / 64 = v / 262144 := fun v =>
    ⟨Nat.div_div_eq_div_mul v 64 64, Nat.div_div_eq_div_mul v 4096 64⟩
  have hc := hdigits c.val.toNat
  have hd := hdigits d.val.toNat
  simp only [String.utf8EncodeChar]
  -- Characters of different lengths differ in the first byte, those of one length in some digit.
  repeat' split
  all_goals
    simp only [List.cons_append, List.nil_append, List.cons_lt_cons_iff, UInt8.lt_iff_toNat_lt,
      ← UInt8.toNat_inj, UInt8.toNat_ofNat']
    simp (disch := omega) only [Nat.mod_eq_of_lt]
    omega

theorem encode_lt_encode_of_lt {cs ds : List Char} (h : cs < ds) : encode cs < encode ds := by
  induction h with
  | @nil d ds =>
    obtain ⟨b, bs, hb⟩ := List.exists_cons_of_ne_nil (String.utf8EncodeChar_ne_nil (c := d))
    rw [encode_cons, hb]
    exact .nil
  | cons _ ih =>
    rw [encode_cons, encode_cons]
    exact List.append_left_lt ih
  | rel h =>
    rw [encode_cons, encode_cons]
    exact encodeChar_append_lt h _ _

/-- Texts have the order of their bytes. -/
theorem encode_lt_encode_iff {cs ds : List Char} : encode cs < encode ds ↔ cs < ds := by
  refine ⟨fun h => ?_, encode_lt_encode_of_lt⟩
  refine Decidable.byContradiction fun hlt => ?_
  by_cases hgt : ds < cs
  · exact List.lt_asymm h (encode_lt_encode_of_lt hgt)
  · obtain rfl : cs = ds := Std.Trichotomous.trichotomous cs ds hlt hgt
    exact List.lt_irrefl _ h

theorem bytes_lt_bytes_iff {s t : String} : bytes s < bytes t ↔ s < t := by
  rw [bytes_eq_encode, bytes_eq_encode, encode_lt_encode_iff, String.lt_iff]

end FaultInjection.Text.Utf8
