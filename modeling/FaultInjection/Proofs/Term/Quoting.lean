import FaultInjection.Proofs.Term.Argument
import FaultInjection.Proofs.Term.Chain
import FaultInjection.Proofs.Text.Cutting

/-!
# What is taken for a string

Three readers look for strings: the cut of a chain goes over bytes, the cut of a bulk text over characters, and a
literal is read together with its escapes. They take the same characters for quoted. The scan of the bytes of a text
ends where the scan of its characters does, `scanBytes_encode`, and a literal that can be read ends where the scan
leaves its string for the first time, `closesAt_of_readQuoted`.
-/

namespace FaultInjection

open Text QuoteState

namespace Chain

theorem scanBytes_append (q : QuoteState) (as bs : List UInt8) :
    scanBytes q (as ++ bs) = scanBytes (scanBytes q as) bs := List.foldl_append

/-- High bytes end an escape and nothing else. -/
theorem scanBytes_of_high {hs : List UInt8} (hn : hs ≠ []) (h : ∀ b ∈ hs, 128 ≤ b.toNat) (q : QuoteState) :
    scanBytes q hs = if q = .escaped then .inside else q := by
  induction hs generalizing q with
  | nil => exact absurd rfl hn
  | cons b hs ih =>
    obtain ⟨hb, hhs⟩ := List.forall_mem_cons.1 h
    have hstep : scanBytes q (b :: hs) = scanBytes (stepByte q b) hs := rfl
    rw [hstep, stepByte_of_high hb]
    by_cases hnil : hs = []
    · rw [hnil]
      rfl
    · rw [ih hnil hhs]
      cases q <;> rfl

theorem scanBytes_encodeChar (q : QuoteState) (c : Char) : scanBytes q (String.utf8EncodeChar c) = q.step c := by
  rcases Utf8.ascii_or_high c with ⟨hc, he⟩ | ⟨hc, hb⟩
  · rw [he]
    exact stepByte_of_ascii hc q
  · rw [scanBytes_of_high String.utf8EncodeChar_ne_nil hb, step_of_high hc]

/-- The scan of the bytes and that of the characters end in the same state. -/
theorem scanBytes_encode (q : QuoteState) (cs : List Char) : scanBytes q (Utf8.encode cs) = q.scan cs := by
  induction cs generalizing q with
  | nil => rfl
  | cons c cs ih => rw [Utf8.encode_cons, scanBytes_append, scanBytes_encodeChar, ih, scan_cons]

/-- A text is cut unless its scan ends in a string. -/
theorem cut_eq_none_iff {q : QuoteState} {bs : List UInt8} : cut q bs = none ↔ scanBytes q bs ≠ .outside := by
  fun_induction cut q bs with
  | case1 => simp [scanBytes]
  | case2 q hq => simpa [scanBytes] using hq
  | case3 q b ih => rw [Option.map_eq_none_iff, ih]; rfl
  | case4 q b c bs harrow ih =>
    -- The bytes of the arrow are passed over in one step, and leave the scan where it is.
    obtain ⟨rfl, rfl, rfl⟩ := harrow
    rw [Option.map_eq_none_iff, ih]
    rfl
  | case5 q b c bs hno ih => rw [Option.map_eq_none_iff, ih]; rfl

/-- The byte at `i` stands outside every string, and is no quotation mark. -/
def ByteOutside (bs : List UInt8) (i : Nat) : Prop :=
  scanBytes .outside (bs.take i) = .outside ∧ ∃ b, bs[i]? = some b ∧ b ≠ quoteByte

end Chain

namespace Text

/-- The character at `i` stands outside every string, and is no quotation mark. -/
def CharOutside (cs : List Char) (i : Nat) : Prop := ∃ c, c ≠ '"' ∧ Unquoted c cs i

/-- Behind the quotation mark that it begins with, a text leaves the string for the first time with the character
at `i`. -/
structure ClosesAt (cs : List Char) (i : Nat) : Prop where
  pos : 0 < i
  lt : i < cs.length
  closed : QuoteState.outside.scan (cs.take (i + 1)) = .outside
  opened : ∀ j, 0 < j → j ≤ i → QuoteState.outside.scan (cs.take j) ≠ .outside

end Text

open Chain

variable {pre post : List Char} {c : Char} {i : Nat}

theorem charOutside_append : CharOutside (pre ++ c :: post) pre.length ↔ outside.scan pre = .outside ∧ c ≠ '"' := by
  constructor
  · rintro ⟨d, hd, hat, hscan⟩
    obtain rfl : c = d := by simpa using hat
    exact ⟨by simpa using hscan, hd⟩
  · rintro ⟨hscan, hc⟩
    exact ⟨c, hc, by simp, by simpa using hscan⟩

/-- The first byte of a character stands in the same state as the character, and the others stand where it does. -/
theorem byteOutside_append (hi : i < c.utf8Size) :
    ByteOutside (Utf8.encode (pre ++ c :: post)) ((Utf8.encode pre).length + i) ↔
      outside.scan pre = .outside ∧ c ≠ '"' := by
  have hlength : i < (String.utf8EncodeChar c).length := by rwa [String.length_utf8EncodeChar]
  have hbyte : (Utf8.encode (pre ++ c :: post))[(Utf8.encode pre).length + i]? =
      some (String.utf8EncodeChar c)[i] := by
    rw [Utf8.encode_append, Utf8.encode_cons, List.getElem?_append_right (Nat.le_add_right _ _),
      Nat.add_sub_cancel_left, List.getElem?_append_left hlength, List.getElem?_eq_getElem hlength]
  have hbefore : scanBytes .outside ((Utf8.encode (pre ++ c :: post)).take ((Utf8.encode pre).length + i)) =
      scanBytes (outside.scan pre) ((String.utf8EncodeChar c).take i) := by
    rw [Utf8.encode_append, Utf8.encode_cons, List.take_length_add_append, List.take_append_of_le_length hlength.le,
      scanBytes_append, scanBytes_encode]
  rw [ByteOutside, hbyte, hbefore]
  rcases Utf8.ascii_or_high c with ⟨hc, he⟩ | ⟨hc, hb⟩
  · obtain rfl : i = 0 := by
      rw [he, List.length_singleton] at hlength
      omega
    have hquote : UInt8.ofNat c.toNat = quoteByte ↔ c = '"' := ofNat_toNat_eq_iff hc (k := '"') (by decide)
    simp [he, hquote, scanBytes]
  · have hne : (String.utf8EncodeChar c)[i] ≠ quoteByte := by
      intro heq
      have hhigh := hb _ (List.getElem_mem hlength)
      rw [heq] at hhigh
      exact absurd hhigh (by decide)
    have hc' : c ≠ '"' := by
      rintro rfl
      exact absurd hc (by decide)
    have hstate : scanBytes (outside.scan pre) ((String.utf8EncodeChar c).take i) = .outside ↔
        outside.scan pre = .outside := by
      cases i with
      | zero => rfl
      | succ i =>
        rw [scanBytes_of_high (by simp [String.utf8EncodeChar_ne_nil]) fun b hm => hb b (List.mem_of_mem_take hm)]
        cases outside.scan pre <;> simp
    rw [hstate]
    simp [hne, hc']

/-- No character of the body of a string takes the scan out of the string. -/
theorem QuotedBody.stays {body value : List Char} (h : QuotedBody body value) :
    inside.scan body = .inside ∧ ∀ j, inside.scan (body.take j) ≠ .outside := by
  induction h with
  | nil => exact ⟨rfl, fun j => by simp⟩
  | @plain c cs value hq hb _ ih =>
    have hstep : inside.step c = .inside := by rw [QuoteState.step, if_neg hb, if_neg hq]
    refine ⟨by rw [scan_cons, hstep, ih.1], fun j => ?_⟩
    cases j with
    | zero => simp
    | succ j =>
      rw [List.take_succ_cons, scan_cons, hstep]
      exact ih.2 j
  | @escape e c cs value _ _ ih =>
    refine ⟨ih.1, fun j => ?_⟩
    cases j with
    | zero => simp
    | succ j =>
      cases j with
      | zero => simp [QuoteState.step]
      | succ j => exact ih.2 j

/-- A string that is read ends where the scan leaves it for the first time. -/
theorem closesAt_of_readQuoted {body value after : List Char} (h : readQuoted body = .ok (value, after)) :
    ∃ i, ClosesAt ('"' :: body) i ∧ after = body.drop i := by
  obtain ⟨inner, hinner, rfl⟩ := readQuoted_eq_ok_iff.1 h
  obtain ⟨hend, hstays⟩ := hinner.stays
  refine ⟨inner.length + 1, ⟨Nat.succ_pos _, by simp, ?_, fun j hpos hle => ?_⟩, by simp⟩
  · have htake : ('"' :: (inner ++ '"' :: after)).take (inner.length + 1 + 1) = '"' :: (inner ++ ['"']) := by
      rw [List.take_succ_cons, List.append_cons, List.take_left' (by simp)]
    have hopen : outside.step '"' = .inside := rfl
    rw [htake, scan_cons, scan_append, hopen, hend]
    rfl
  · obtain ⟨j, rfl⟩ := Nat.exists_eq_add_one.2 hpos
    rw [List.take_succ_cons, List.take_append_of_le_length (Nat.le_of_succ_le_succ hle)]
    exact hstays j

/-- A literal that is accepted is a string up to the place where the scan leaves it for the first time, with only
blanks behind it. -/
theorem closesAt_of_readString {body : List Char} {s : String} (h : readString ('"' :: body) = .ok s) :
    ∃ i, ClosesAt ('"' :: body) i ∧ readQuoted body = .ok (s.toList, body.drop i) ∧ trim (body.drop i) = [] := by
  rw [readString] at h
  cases hread : readQuoted body with
  | error e => simp [hread] at h
  | ok result =>
    obtain ⟨value, after⟩ := result
    obtain ⟨i, hi, rfl⟩ := closesAt_of_readQuoted hread
    simp only [hread] at h
    split at h
    · next hblank =>
      obtain rfl := Except.ok.inj h
      exact ⟨i, hi, by rw [String.toList_ofList], hblank⟩
    · cases h

/-- The readers agree on what is quoted. The scan of the bytes of a text ends where the scan of its characters does, it
has every byte of a character outside strings if the other scan has the character there, and the text is cut unless
they end in a string. A literal that is accepted ends where the scan leaves its string for the first time; if the scan
never leaves it, no literal is accepted. -/
theorem scans_agree :
    (∀ text : String, scanBytes .outside (Utf8.bytes text) = outside.scan text.toList ∧
      (cut .outside (Utf8.bytes text) = none ↔ outside.scan text.toList ≠ .outside) ∧
      ∀ pre c post, text.toList = pre ++ c :: post → ∀ i < c.utf8Size,
        (ByteOutside (Utf8.bytes text) ((Utf8.encode pre).length + i) ↔ CharOutside text.toList pre.length)) ∧
    ∀ body : List Char,
      (∀ s, readString ('"' :: body) = .ok s → ∃ i, ClosesAt ('"' :: body) i ∧
        readQuoted body = .ok (s.toList, body.drop i) ∧ trim (body.drop i) = []) ∧
      ((∀ i, ¬ ClosesAt ('"' :: body) i) → ∃ e, readString ('"' :: body) = .error e) := by
  constructor
  · intro text
    rw [Utf8.bytes_eq_encode, cut_eq_none_iff, scanBytes_encode]
    refine ⟨rfl, Iff.rfl, fun pre c post htext i hi => ?_⟩
    rw [htext]
    exact (byteOutside_append hi).trans charOutside_append.symm
  · refine fun body => ⟨fun s hs => closesAt_of_readString hs, fun hnever => ?_⟩
    cases hread : readString ('"' :: body) with
    | error e => exact ⟨e, rfl⟩
    | ok s =>
      obtain ⟨i, hi, -⟩ := closesAt_of_readString hread
      exact absurd hi (hnever i)

/-- A longer character behind a backslash within a string, an escaped quote, and a character behind the string. -/
theorem scans_agree_longCharacters :
    (¬ ByteOutside (Utf8.bytes "\"\\é\\\"\"€") 3 ∧ ByteOutside (Utf8.bytes "\"\\é\\\"\"€") 9) ∧
    (∃ i, ClosesAt "\"é\\\"\" ".toList i ∧
      readQuoted "é\\\"\" ".toList = .ok ("é\"".toList, "é\\\"\" ".toList.drop i)) ∧
    ∃ e, readString "\"a\\\"".toList = .error e := by
  obtain ⟨hscans, hliterals⟩ := scans_agree
  obtain ⟨-, -, hchars⟩ := hscans "\"\\é\\\"\"€"
  refine ⟨⟨fun hbyte => ?_, ?_⟩, ?_, ?_⟩
  · obtain ⟨c, -, -, hscan⟩ := (hchars ['"', '\\'] 'é' ['\\', '"', '"', '€'] rfl 1 (by decide)).1 hbyte
    exact absurd hscan (by decide)
  · refine (hchars ['"', '\\', 'é', '\\', '"', '"'] '€' [] rfl 2 (by decide)).2 ⟨'€', by decide, ?_⟩
    exact ⟨rfl, by decide⟩
  · obtain ⟨i, hi, hread, -⟩ := (hliterals ['é', '\\', '"', '"', ' ']).1 "é\"" (by decide)
    exact ⟨i, hi, hread⟩
  · refine (hliterals ['a', '\\', '"']).2 fun i hi => ?_
    have hnever : ∀ i < 4, outside.scan (['"', 'a', '\\', '"'].take (i + 1)) ≠ .outside := by decide
    exact hnever i hi.lt hi.closed

end FaultInjection
