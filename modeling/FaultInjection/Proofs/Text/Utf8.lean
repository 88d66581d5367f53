import FaultInjection.Text.Utf8

/-!
# The bytes of a text, character by character

A character of ASCII is one byte, and every byte of another character is at least 128
(`ascii_or_high`), so a scan for ASCII bytes never stops inside a character (`isValid_of_ascii`). `bytes_eq_encode`
and `decode?_encode` relate the bytes of strings to those of character lists.
-/

namespace FaultInjection.Text.Utf8

@[simp] theorem encode_nil : encode [] = [] := rfl

theorem encode_cons (c : Char) (cs : List Char) :
    encode (c :: cs) = String.utf8EncodeChar c ++ encode cs := rfl

theorem bytes_eq_encode (s : String) : bytes s = encode s.toList := by
  rw [bytes, String.toUTF8_eq_toByteArray, ← String.utf8Encode_toList, List.utf8Encode]
  simp [encode]

theorem bytes_ofList (cs : List Char) : bytes (String.ofList cs) = encode cs := by
  rw [bytes_eq_encode, String.toList_ofList]

theorem decode?_encode (cs : List Char) : decode? (encode cs) = some (String.ofList cs) := by
  rw [← bytes_ofList, decode?_bytes]

theorem encode_append (cs ds : List Char) : encode (cs ++ ds) = encode cs ++ encode ds :=
  List.flatMap_append

theorem encode_injective {cs ds : List Char} (h : encode cs = encode ds) : cs = ds := by
  have hread := congrArg decode? h
  rw [decode?_encode, decode?_encode] at hread
  exact String.ofList_injective (Option.some.inj hread)

theorem length_bytes (s : String) : (bytes s).length = s.utf8ByteSize := by
  rw [bytes, Array.length_toList]
  rfl

theorem length_encode_le (cs : List Char) : (encode cs).length ≤ 4 * cs.length := by
  induction cs with
  | nil => simp
  | cons c cs ih =>
    have hc := c.utf8Size_le_four
    rw [encode_cons, List.length_append, String.length_utf8EncodeChar, List.length_cons]
    omega

/-- A character of ASCII is one byte; the bytes of any other have the high bit. -/
theorem ascii_or_high (c : Char) :
    (c.toNat < 128 ∧ String.utf8EncodeChar c = [UInt8.ofNat c.toNat]) ∨
      (128 ≤ c.toNat ∧ ∀ b ∈ String.utf8EncodeChar c, 128 ≤ b.toNat) := by
  by_cases h : c.toNat < 128
  · refine .inl ⟨h, ?_⟩
    rw [String.utf8EncodeChar]
    exact if_pos (Nat.le_of_lt_succ h)
  · refine .inr ⟨by omega, ?_⟩
    intro b hb
    have hv : c.val.toNat = c.toNat := rfl
    simp only [String.utf8EncodeChar, hv] at hb
    split at hb
    · omega
    · split at hb
      · simp only [List.mem_cons, List.not_mem_nil, or_false] at hb
        rcases hb with rfl | rfl <;> simp only [UInt8.toNat_ofNat'] <;> omega
      · split at hb
        · simp only [List.mem_cons, List.not_mem_nil, or_false] at hb
          rcases hb with rfl | rfl | rfl <;> simp only [UInt8.toNat_ofNat'] <;> omega
        · simp only [List.mem_cons, List.not_mem_nil, or_false] at hb
          rcases hb with rfl | rfl | rfl | rfl <;> simp only [UInt8.toNat_ofNat'] <;> omega

/-- A byte of ASCII is a whole character. -/
theorem exists_char_of_ascii {cs : List Char} {i : Nat} {b : UInt8} (h : (encode cs)[i]? = some b)
    (hb : b.toNat < 128) :
    ∃ pre c post, cs = pre ++ c :: post ∧ i = (encode pre).length ∧ (String.utf8EncodeChar c).length = 1 := by
  induction cs generalizing i with
  | nil => simp at h
  | cons c cs ih =>
    rw [encode_cons] at h
    by_cases hi : i < (String.utf8EncodeChar c).length
    · rw [List.getElem?_append_left hi] at h
      rcases ascii_or_high c with ⟨-, he⟩ | ⟨-, hhigh⟩
      · have hlength : (String.utf8EncodeChar c).length = 1 := by rw [he]; rfl
        exact ⟨[], c, cs, rfl, by rw [encode_nil, List.length_nil]; omega, hlength⟩
      · have hle := hhigh b (List.mem_of_getElem? h)
        omega
    · rw [List.getElem?_append_right (by omega)] at h
      obtain ⟨pre, d, post, rfl, hpre, hlength⟩ := ih h
      refine ⟨c :: pre, d, post, rfl, ?_, hlength⟩
      rw [encode_cons, List.length_append]
      omega

/-- A text can be cut in front of a byte of ASCII and behind it. -/
theorem isValid_of_ascii {s : String} {i : Nat} {b : UInt8} (h : (bytes s)[i]? = some b) (hb : b.toNat < 128) :
    String.Pos.Raw.IsValid s ⟨i⟩ ∧ String.Pos.Raw.IsValid s ⟨i + 1⟩ := by
  rw [bytes_eq_encode] at h
  obtain ⟨pre, c, post, hs, rfl, hlength⟩ := exists_char_of_ascii h hb
  have hvalid (front back : List Char) (hs : s.toList = front ++ back) :
      String.Pos.Raw.IsValid s ⟨(encode front).length⟩ := by
    refine String.Pos.Raw.isValid_iff_exists_append.2 ⟨String.ofList front, String.ofList back, ?_, ?_⟩
    · rw [← String.ofList_append, ← hs, String.ofList_toList]
    · rw [← bytes_ofList, length_bytes]
      rfl
  refine ⟨hvalid pre (c :: post) hs, ?_⟩
  have hbehind := hvalid (pre ++ [c]) post (by rw [hs, List.append_cons])
  rwa [encode_append, List.length_append, encode_cons, encode_nil, List.append_nil, hlength] at hbehind
end FaultInjection.Text.Utf8
