import FaultInjection.Text.QuoteScan

/-!
# Texts sealed against a delimiter

A text is sealed against some characters if a scan that begins outside strings ends outside them
and meets none of these characters on the way, except inside strings. A text may be cut next to
a sealed piece and at no place within it: `pieces_intercalate` and `cutFirst_of_sealed`.
-/

namespace FaultInjection.Text

open QuoteState

/-- From state `q` the scan ends outside strings and meets no character of `bad` there. -/
def SealedFrom (bad : Char → Prop) : QuoteState → List Char → Prop
  | q, [] => q = .outside
  | q, c :: cs => (q = .outside → ¬ bad c) ∧ SealedFrom bad (q.step c) cs

/-- The scan ends where it began, outside strings, and meets no character of `bad` there. -/
def Sealed (bad : Char → Prop) (cs : List Char) : Prop := SealedFrom bad .outside cs

variable {bad : Char → Prop}

theorem sealed_nil : Sealed bad [] := rfl

theorem SealedFrom.append {q : QuoteState} {as bs : List Char} (ha : SealedFrom bad q as)
    (hb : Sealed bad bs) : SealedFrom bad q (as ++ bs) := by
  induction as generalizing q with
  | nil =>
    obtain rfl : q = .outside := ha
    exact hb
  | cons a as ih => exact ⟨ha.1, ih ha.2⟩

theorem Sealed.append {as bs : List Char} (ha : Sealed bad as) (hb : Sealed bad bs) :
    Sealed bad (as ++ bs) := SealedFrom.append ha hb

theorem SealedFrom.mono {bad' : Char → Prop} (hbad : ∀ c, bad' c → bad c) {q : QuoteState}
    {cs : List Char} (h : SealedFrom bad q cs) : SealedFrom bad' q cs := by
  induction cs generalizing q with
  | nil => exact h
  | cons c cs ih => exact ⟨fun hq hc => h.1 hq (hbad c hc), ih h.2⟩

/-- Being sealed against more characters is stronger. -/
theorem Sealed.mono {bad' : Char → Prop} (hbad : ∀ c, bad' c → bad c) {cs : List Char}
    (h : Sealed bad cs) : Sealed bad' cs := SealedFrom.mono hbad h

/-- A text without quotes is sealed against what it does not hold. -/
theorem sealed_of_forall {cs : List Char} (h : ∀ c ∈ cs, c ≠ '"' ∧ ¬ bad c) : Sealed bad cs := by
  induction cs with
  | nil => rfl
  | cons c cs ih =>
    have hc := h c (by simp)
    have hstep : QuoteState.outside.step c = .outside := by simp [QuoteState.step, hc.1]
    refine ⟨fun _ => hc.2, ?_⟩
    rw [hstep]
    exact ih fun d hd => h d (by simp [hd])

/-- Where none of the characters occurs, a text is sealed if the scan of it ends outside strings. -/
theorem sealedFrom_iff_scan {q : QuoteState} {cs : List Char} (h : ∀ c ∈ cs, ¬ bad c) :
    SealedFrom bad q cs ↔ q.scan cs = .outside := by
  induction cs generalizing q with
  | nil => exact Iff.rfl
  | cons c cs ih =>
    obtain ⟨hc, hcs⟩ := List.forall_mem_cons.1 h
    rw [scan_cons, ← ih hcs]
    exact and_iff_right fun _ => hc

section Cutting

variable {d : Char}

theorem pieces_of_sealedFrom {q : QuoteState} {cs : List Char} (h : SealedFrom (· = d) q cs) :
    pieces d q cs = [cs] := by
  induction cs generalizing q with
  | nil => rfl
  | cons c cs ih =>
    rw [pieces, if_neg fun hc => h.1 hc.1 hc.2, ih h.2, consFirst]

theorem pieces_append_of_sealedFrom {q : QuoteState} {cs : List Char} (h : SealedFrom (· = d) q cs)
    (rest : List Char) : pieces d q (cs ++ d :: rest) = cs :: pieces d .outside rest := by
  induction cs generalizing q with
  | nil =>
    obtain rfl : q = .outside := h
    rw [List.nil_append, pieces, if_pos ⟨rfl, rfl⟩]
  | cons c cs ih =>
    rw [List.cons_append, pieces, if_neg fun hc => h.1 hc.1 hc.2, ih h.2, consFirst]

/-- Sealed pieces with delimiters between them are found again. -/
theorem pieces_intercalate {ps : List (List Char)} (hn : ps ≠ []) (h : ∀ p ∈ ps, Sealed (· = d) p) :
    pieces d .outside ([d].intercalate ps) = ps := by
  induction ps with
  | nil => exact absurd rfl hn
  | cons p ps ih =>
    have hp := h p (by simp)
    cases ps with
    | nil => simpa [List.intercalate] using pieces_of_sealedFrom hp
    | cons p' ps =>
      have htail := ih (by simp) fun r hr => h r (by simp [hr])
      have hjoin : [d].intercalate (p :: p' :: ps) = p ++ d :: [d].intercalate (p' :: ps) := by
        simp [List.intercalate]
      rw [hjoin, pieces_append_of_sealedFrom hp, htail]

/-- The first cut falls behind a sealed text that is followed by the delimiter. -/
theorem cutFirst_of_sealed {q : QuoteState} {cs : List Char} (h : SealedFrom (· = d) q cs)
    (rest : List Char) : cutFirst d q (cs ++ d :: rest) = some (cs, rest) := by
  induction cs generalizing q with
  | nil =>
    obtain rfl : q = .outside := h
    rw [List.nil_append, cutFirst, if_pos ⟨rfl, rfl⟩]
  | cons c cs ih =>
    rw [List.cons_append, cutFirst, if_neg fun hc => h.1 hc.1 hc.2, ih h.2]
    rfl

/-- A cut falls nowhere else. -/
theorem sealed_of_cutFirst {q : QuoteState} {cs before rest : List Char}
    (h : cutFirst d q cs = some (before, rest)) : cs = before ++ d :: rest ∧ SealedFrom (· = d) q before := by
  induction cs generalizing q before with
  | nil => cases h
  | cons c cs ih =>
    rw [cutFirst] at h
    split at h
    · next hc =>
      obtain ⟨rfl, rfl⟩ := Prod.mk.inj (Option.some.inj h)
      exact ⟨by rw [hc.2, List.nil_append], hc.1⟩
    · next hc =>
      obtain ⟨⟨before', rest'⟩, hcut, heq⟩ := Option.map_eq_some_iff.1 h
      obtain ⟨rfl, rfl⟩ := Prod.mk.inj heq
      obtain ⟨rfl, hsealed⟩ := ih hcut
      exact ⟨rfl, fun hq hd => hc ⟨hq, hd⟩, hsealed⟩

/-- The first piece begins as the text does, if that is with no delimiter. -/
theorem exists_first_piece {c : Char} (hc : c ≠ d) (q : QuoteState) (cs : List Char) :
    ∃ p ps rest, pieces d q (c :: cs) = (c :: p) :: ps ∧ cs = p ++ rest := by
  obtain ⟨p, ps, hp⟩ := List.exists_cons_of_ne_nil (pieces_ne_nil d (q.step c) cs)
  have hjoined := intercalate_pieces d (q.step c) cs
  rw [hp] at hjoined
  have hpieces : pieces d q (c :: cs) = (c :: p) :: ps := by
    rw [pieces, if_neg fun h => hc h.2, hp, consFirst]
  cases ps with
  | nil => exact ⟨p, [], [], hpieces, by simpa [List.intercalate] using hjoined.symm⟩
  | cons p' ps =>
    refine ⟨p, p' :: ps, d :: [d].intercalate (p' :: ps), hpieces, ?_⟩
    rw [← hjoined]
    simp [List.intercalate]

end Cutting

end FaultInjection.Text
