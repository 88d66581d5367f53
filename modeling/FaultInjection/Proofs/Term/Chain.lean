import FaultInjection.Term.Chain
import FaultInjection.Proofs.Text.QuoteScan
import FaultInjection.Proofs.Text.Utf8

/-!
# The chain as characters

`Chain.cut` scans bytes. `cutText` is the same cut over characters, and `split?_eq` says that the
two agree on every text: the bytes that decide are ASCII, and a longer character has none of them.
From then on the bytes are not needed. `intercalate_of_cutText` says that cutting loses nothing,
and `cutText_intercalate` that parts sealed against `>` are found again.
-/

namespace FaultInjection.Chain

open Text

/-- The arrow between the segments of a term. -/
def arrow : List Char := ['-', '>']

/-- The parts between the arrows outside strings, unless the text ends inside a string. -/
def cutText : QuoteState → List Char → Option (List (List Char))
  | q, [] => if q = .outside then some [[]] else none
  | q, [b] => (cutText (q.step b) []).map (consFirst b)
  | q, b :: c :: cs =>
    if q = .outside ∧ b = '-' ∧ c = '>' then (cutText .outside cs).map ([] :: ·)
    else (cutText (q.step b) (c :: cs)).map (consFirst b)

/-! ## Bytes and characters -/

/-- Put a row of bytes in front of the first piece. -/
def pushBytes (bs : List UInt8) (ps : List (List UInt8)) : List (List UInt8) := bs.foldr pushByte ps

theorem pushBytes_eq {bs p : List UInt8} {ps : List (List UInt8)} :
    pushBytes bs (p :: ps) = (bs ++ p) :: ps := by
  induction bs with
  | nil => rfl
  | cons b bs ih =>
    rw [pushBytes, List.foldr_cons, ← pushBytes, ih]
    rfl

/-- A byte that is no minus sign goes to the first piece. -/
theorem cut_cons_of_ne_dash {b : UInt8} (hb : b ≠ dashByte) (q : QuoteState) (bs : List UInt8) :
    cut q (b :: bs) = (cut (stepByte q b) bs).map (pushByte b) := by
  cases bs with
  | nil => rfl
  | cons c bs => rw [cut, if_neg fun h => hb h.2.1]

theorem stepByte_of_high {b : UInt8} (h : 128 ≤ b.toNat) (q : QuoteState) :
    stepByte q b = if q = .escaped then .inside else q := by
  have hq : b ≠ quoteByte := by
    rintro rfl
    exact absurd h (by decide)
  have hs : b ≠ backslashByte := by
    rintro rfl
    exact absurd h (by decide)
  cases q <;> simp [stepByte, hq, hs]

/-- High bytes go to the first piece together, and end the escape at the first of them. -/
theorem cut_append_of_high {hs : List UInt8} (hn : hs ≠ []) (h : ∀ b ∈ hs, 128 ≤ b.toNat)
    (q : QuoteState) (bs : List UInt8) :
    cut q (hs ++ bs) = (cut (if q = .escaped then .inside else q) bs).map (pushBytes hs) := by
  induction hs generalizing q with
  | nil => exact absurd rfl hn
  | cons b hs ih =>
    have hb := h b (by simp)
    have hd : b ≠ dashByte := by
      rintro rfl
      exact absurd hb (by decide)
    rw [List.cons_append, cut_cons_of_ne_dash hd, stepByte_of_high hb]
    by_cases hnil : hs = []
    · subst hnil
      rfl
    · rw [ih hnil fun c hc => h c (by simp [hc]), Option.map_map]
      cases q <;> rfl

theorem step_of_high {c : Char} (h : 128 ≤ c.toNat) (q : QuoteState) :
    q.step c = if q = .escaped then .inside else q := by
  have hq : c ≠ '"' := by
    rintro rfl
    exact absurd h (by decide)
  have hs : c ≠ '\\' := by
    rintro rfl
    exact absurd h (by decide)
  cases q <;> simp [QuoteState.step, hq, hs]

theorem ofNat_toNat_eq_iff {c : Char} (h : c.toNat < 128) {k : Char} (hk : k.toNat < 128) :
    UInt8.ofNat c.toNat = UInt8.ofNat k.toNat ↔ c = k := by
  constructor
  · intro he
    have := congrArg UInt8.toNat he
    simp only [UInt8.toNat_ofNat'] at this
    exact Char.toNat_inj.1 (by omega)
  · rintro rfl
    rfl

theorem stepByte_of_ascii {c : Char} (h : c.toNat < 128) (q : QuoteState) :
    stepByte q (UInt8.ofNat c.toNat) = q.step c := by
  have hq : UInt8.ofNat c.toNat = quoteByte ↔ c = '"' :=
    ofNat_toNat_eq_iff h (k := '"') (by decide)
  have hs : UInt8.ofNat c.toNat = backslashByte ↔ c = '\\' :=
    ofNat_toNat_eq_iff h (k := '\\') (by decide)
  cases q <;> simp [stepByte, QuoteState.step, hq, hs]

/-- The first byte of a text is the head of the arrow exactly when the first character is. -/
theorem head_encode_cons (c : Char) (cs : List Char) :
    ∃ b bs, Utf8.encode (c :: cs) = b :: bs ∧ (b = headByte ↔ c = '>') := by
  rcases Utf8.ascii_or_high c with ⟨h, he⟩ | ⟨h, hb⟩
  · exact ⟨_, _, by rw [Utf8.encode_cons, he]; rfl, ofNat_toNat_eq_iff h (k := '>') (by decide)⟩
  · obtain ⟨b, bs, he⟩ := List.exists_cons_of_ne_nil (String.utf8EncodeChar_ne_nil (c := c))
    refine ⟨b, _, by rw [Utf8.encode_cons, he]; rfl, ?_⟩
    have hb := hb b (by simp [he])
    constructor
    · rintro rfl
      exact absurd hb (by decide)
    · rintro rfl
      exact absurd h (by decide)

theorem map_pushBytes (o : Option (List (List Char))) (c : Char)
    (ho : ∀ ps, o = some ps → ps ≠ []) :
    (o.map (List.map Utf8.encode)).map (pushBytes (String.utf8EncodeChar c)) =
      (o.map (consFirst c)).map (List.map Utf8.encode) := by
  cases o with
  | none => rfl
  | some ps =>
    obtain ⟨p, ps, rfl⟩ := List.exists_cons_of_ne_nil (ho ps rfl)
    simp [pushBytes_eq, consFirst, Utf8.encode_cons]

theorem cutText_ne_nil {q : QuoteState} {cs : List Char} {ps : List (List Char)}
    (h : cutText q cs = some ps) : ps ≠ [] := by
  fun_induction cutText q cs generalizing ps with
  | case1 =>
    obtain rfl := Option.some.inj h
    simp
  | case2 => simp at h
  | case3 q b ih =>
    obtain ⟨ps', -, rfl⟩ := Option.map_eq_some_iff.1 h
    exact consFirst_ne_nil b ps'
  | case4 q b c cs hc ih =>
    obtain ⟨ps', -, rfl⟩ := Option.map_eq_some_iff.1 h
    simp
  | case5 q b c cs hc ih =>
    obtain ⟨ps', -, rfl⟩ := Option.map_eq_some_iff.1 h
    exact consFirst_ne_nil b ps'

/-- Unless an arrow begins here, the bytes of the first character go to the first piece. -/
theorem cut_encode_cons_of_not_arrow {q : QuoteState} {c : Char} {cs : List Char}
    (h : ¬ (q = .outside ∧ c = '-' ∧ cs.head? = some '>')) :
    cut q (Utf8.encode (c :: cs)) =
      (cut (q.step c) (Utf8.encode cs)).map (pushBytes (String.utf8EncodeChar c)) := by
  rw [Utf8.encode_cons]
  rcases Utf8.ascii_or_high c with ⟨hc, he⟩ | ⟨hc, hb⟩
  · rw [he, ← stepByte_of_ascii hc]
    have hpush : pushBytes [UInt8.ofNat c.toNat] = pushByte (UInt8.ofNat c.toNat) := rfl
    rw [hpush, List.singleton_append]
    cases cs with
    | nil => rfl
    | cons d cs =>
      obtain ⟨b, bs, hd, hhead⟩ := head_encode_cons d cs
      have hdash : UInt8.ofNat c.toNat = dashByte ↔ c = '-' :=
        ofNat_toNat_eq_iff hc (k := '-') (by decide)
      rw [hd, cut, if_neg fun hx => h ⟨hx.1, hdash.1 hx.2.1, by simp [hhead.1 hx.2.2]⟩]
  · rw [cut_append_of_high String.utf8EncodeChar_ne_nil hb, step_of_high hc]

/-- The byte cut and the character cut agree on every text. -/
theorem cut_encode (q : QuoteState) (cs : List Char) :
    cut q (Utf8.encode cs) = (cutText q cs).map (List.map Utf8.encode) := by
  fun_induction cutText q cs with
  | case1 => rfl
  | case2 q hq => simp [cut, hq]
  | case3 q b ih =>
    rw [← map_pushBytes _ _ fun ps h => cutText_ne_nil h, ← ih]
    exact cut_encode_cons_of_not_arrow fun h => by simp at h
  | case4 q b c cs hc ih =>
    obtain ⟨rfl, rfl, rfl⟩ := hc
    have harrow : Utf8.encode ('-' :: '>' :: cs) = dashByte :: headByte :: Utf8.encode cs := rfl
    rw [harrow, cut, if_pos ⟨rfl, rfl, rfl⟩, ih, Option.map_map, Option.map_map]
    rfl
  | case5 q b c cs hc ih =>
    rw [← map_pushBytes _ _ fun ps h => cutText_ne_nil h, ← ih]
    exact cut_encode_cons_of_not_arrow fun h => hc ⟨h.1, h.2.1, by simpa using h.2.2⟩

/-- Cutting a string gives the parts that cutting its characters gives. -/
theorem split?_eq (spec : String) :
    split? spec = (cutText .outside spec.toList).map (List.map String.ofList) := by
  rw [split?, Utf8.bytes_eq_encode, cut_encode]
  cases cutText .outside spec.toList with
  | none => rfl
  | some ps =>
    have hdecode : ∀ ps : List (List Char),
        (ps.map Utf8.encode).mapM Utf8.decode? = some (ps.map String.ofList) := fun ps => by
      induction ps with
      | nil => rfl
      | cons p ps ih => simp [List.mapM_cons, Utf8.decode?_encode, ih]
    exact hdecode ps

/-! ## What the parts are -/

/-- Cutting loses nothing. -/
theorem intercalate_of_cutText {q : QuoteState} {cs : List Char} {ps : List (List Char)}
    (h : cutText q cs = some ps) : arrow.intercalate ps = cs := by
  fun_induction cutText q cs generalizing ps with
  | case1 =>
    obtain rfl := Option.some.inj h
    simp [List.intercalate]
  | case2 => simp at h
  | case3 q b ih =>
    obtain ⟨ps', h', rfl⟩ := Option.map_eq_some_iff.1 h
    rw [intercalate_consFirst (cutText_ne_nil h'), ih h']
  | case4 q b c cs hc ih =>
    obtain ⟨ps', h', rfl⟩ := Option.map_eq_some_iff.1 h
    obtain ⟨p, ps, rfl⟩ := List.exists_cons_of_ne_nil (cutText_ne_nil h')
    have hjoin : arrow.intercalate ([] :: p :: ps) = arrow ++ arrow.intercalate (p :: ps) := by
      simp [List.intercalate]
    rw [hjoin, ih h', hc.2.1, hc.2.2]
    rfl
  | case5 q b c cs hc ih =>
    obtain ⟨ps', h', rfl⟩ := Option.map_eq_some_iff.1 h
    rw [intercalate_consFirst (cutText_ne_nil h'), ih h']

/-- Where no head of an arrow stands outside strings, a character goes to the first part. -/
theorem cutText_cons_of_not_arrow {q : QuoteState} {c : Char} {cs : List Char}
    (h : ¬ (q = .outside ∧ c = '-' ∧ cs.head? = some '>')) :
    cutText q (c :: cs) = (cutText (q.step c) cs).map (consFirst c) := by
  cases cs with
  | nil => rfl
  | cons d cs => rw [cutText, if_neg fun hc => h ⟨hc.1, hc.2.1, by simp [hc.2.2]⟩]

theorem not_arrow_of_sealedFrom {q : QuoteState} {c : Char} {cs : List Char}
    (h : SealedFrom (· = '>') q (c :: cs)) (hn : cs ≠ []) (rest : List Char) :
    ¬ (q = .outside ∧ c = '-' ∧ (cs ++ rest).head? = some '>') := by
  rintro ⟨rfl, rfl, hhead⟩
  obtain ⟨d, cs, rfl⟩ := List.exists_cons_of_ne_nil hn
  obtain rfl : d = '>' := by simpa using hhead
  exact h.2.1 rfl rfl

theorem cutText_of_sealedFrom {q : QuoteState} {cs : List Char} (h : SealedFrom (· = '>') q cs) :
    cutText q cs = some [cs] := by
  induction cs generalizing q with
  | nil =>
    obtain rfl : q = .outside := h
    rfl
  | cons c cs ih =>
    have hc : ¬ (q = .outside ∧ c = '-' ∧ cs.head? = some '>') := by
      by_cases hn : cs = []
      · simp [hn]
      · simpa using not_arrow_of_sealedFrom h hn []
    rw [cutText_cons_of_not_arrow hc, ih h.2]
    rfl

theorem cutText_append_arrow {q : QuoteState} {cs : List Char} (h : SealedFrom (· = '>') q cs)
    (rest : List Char) :
    cutText q (cs ++ '-' :: '>' :: rest) = (cutText .outside rest).map (cs :: ·) := by
  induction cs generalizing q with
  | nil =>
    obtain rfl : q = .outside := h
    rw [List.nil_append, cutText, if_pos ⟨rfl, rfl, rfl⟩]
  | cons c cs ih =>
    have hc : ¬ (q = .outside ∧ c = '-' ∧ (cs ++ '-' :: '>' :: rest).head? = some '>') := by
      by_cases hn : cs = []
      · simp [hn]
      · exact not_arrow_of_sealedFrom h hn _
    rw [List.cons_append, cutText_cons_of_not_arrow hc, ih h.2, Option.map_map]
    rfl

theorem intercalate_arrow_cons {ps : List (List Char)} (hn : ps ≠ []) (p : List Char) :
    arrow.intercalate (p :: ps) = p ++ '-' :: '>' :: arrow.intercalate ps := by
  obtain ⟨p', ps, rfl⟩ := List.exists_cons_of_ne_nil hn
  simp [List.intercalate, arrow]

/-- Parts that are sealed against the head of the arrow are found again. -/
theorem cutText_intercalate {ps : List (List Char)} (hn : ps ≠ []) (h : ∀ p ∈ ps, Sealed (· = '>') p) :
    cutText .outside (arrow.intercalate ps) = some ps := by
  induction ps with
  | nil => exact absurd rfl hn
  | cons p ps ih =>
    have hp := h p (by simp)
    cases ps with
    | nil => simpa [List.intercalate] using cutText_of_sealedFrom hp
    | cons p' ps =>
      have htail := ih (by simp) fun r hr => h r (by simp [hr])
      rw [intercalate_arrow_cons (by simp), cutText_append_arrow hp, htail]
      rfl

end FaultInjection.Chain
