import FaultInjection.Proofs.Text.QuoteScan
import Mathlib.Algebra.Ring.Nat

/-!
# Where a text is cut

A place in a text is `Unquoted` if a scan of the text up to there ends outside strings. A text is cut at the
unquoted places of a delimiter and at no others (`Cutting`), and although the scan begins anew in each piece,
a place is unquoted in its piece exactly if it is in the whole text: `cutting_pieces`. Texts whose scans end
outside strings are cut apart from what follows them, `pieces_append`.
-/

namespace FaultInjection.Text

open QuoteState

/-- The character at `i` is `d` and stands outside every string, for a scan that begins in state `q`. -/
def UnquotedFrom (d : Char) (q : QuoteState) (cs : List Char) (i : Nat) : Prop :=
  cs[i]? = some d ∧ q.scan (cs.take i) = .outside

/-- The character at `i` is `d` and stands outside every string of the text. -/
def Unquoted (d : Char) (cs : List Char) (i : Nat) : Prop := UnquotedFrom d .outside cs i

variable {d e : Char} {q : QuoteState} {cs as bs : List Char} {ps : List (List Char)} {i : Nat}

theorem UnquotedFrom.lt (h : UnquotedFrom d q cs i) : i < cs.length :=
  (List.getElem?_eq_some_iff.1 h.1).1

theorem unquotedFrom_zero {c : Char} : UnquotedFrom d q (c :: cs) 0 ↔ q = .outside ∧ c = d := by
  simp [UnquotedFrom, and_comm]

theorem unquotedFrom_succ {c : Char} : UnquotedFrom d q (c :: cs) (i + 1) ↔ UnquotedFrom d (q.step c) cs i := by
  simp [UnquotedFrom]

/-- A place in the front part of a text is looked at without the rest. -/
theorem unquotedFrom_append_left (hi : i < as.length) :
    UnquotedFrom d q (as ++ bs) i ↔ UnquotedFrom d q as i := by
  rw [UnquotedFrom, UnquotedFrom, List.getElem?_append_left hi, List.take_append_of_le_length (Nat.le_of_lt hi)]

/-- A place behind the front part is looked at from the state in which the scan of that part ends. -/
theorem unquotedFrom_append_right :
    UnquotedFrom d q (as ++ bs) (as.length + i) ↔ UnquotedFrom d (q.scan as) bs i := by
  rw [UnquotedFrom, UnquotedFrom, List.getElem?_append_right (Nat.le_add_right _ _), Nat.add_sub_cancel_left,
    List.take_length_add_append, scan_append]

theorem sealedFrom_iff_unquoted :
    SealedFrom (· = d) q cs ↔ q.scan cs = .outside ∧ ∀ i, ¬ UnquotedFrom d q cs i := by
  induction cs generalizing q with
  | nil =>
    refine ⟨fun h => ⟨h, fun i hi => ?_⟩, fun h => h.1⟩
    cases hi.lt
  | cons c cs ih =>
    rw [SealedFrom, ih, scan_cons]
    constructor
    · rintro ⟨hc, hscan, hnone⟩
      refine ⟨hscan, fun i hi => ?_⟩
      cases i with
      | zero => exact hc (unquotedFrom_zero.1 hi).1 (unquotedFrom_zero.1 hi).2
      | succ i => exact hnone i (unquotedFrom_succ.1 hi)
    · rintro ⟨hscan, hnone⟩
      exact ⟨fun hq hc => hnone 0 (unquotedFrom_zero.2 ⟨hq, hc⟩), hscan,
        fun i hi => hnone (i + 1) (unquotedFrom_succ.2 hi)⟩

/-! ## The first cut -/

theorem cutFirst_eq_none_iff : cutFirst d q cs = none ↔ ∀ i, ¬ UnquotedFrom d q cs i := by
  induction cs generalizing q with
  | nil =>
    refine ⟨fun _ i hi => ?_, fun _ => rfl⟩
    cases hi.lt
  | cons c cs ih =>
    rw [cutFirst]
    by_cases hc : q = .outside ∧ c = d
    · rw [if_pos hc]
      exact ⟨fun h => absurd h (Option.some_ne_none _), fun h => absurd (unquotedFrom_zero.2 hc) (h 0)⟩
    · rw [if_neg hc, Option.map_eq_none_iff, ih]
      constructor
      · intro h i hi
        cases i with
        | zero => exact hc (unquotedFrom_zero.1 hi)
        | succ i => exact h i (unquotedFrom_succ.1 hi)
      · exact fun h i hi => h (i + 1) (unquotedFrom_succ.2 hi)

/-- The first cut falls at the first unquoted place. -/
theorem exists_place_of_cutFirst {before after : List Char} (h : cutFirst d q cs = some (before, after)) :
    ∃ i, UnquotedFrom d q cs i ∧ (∀ j < i, ¬ UnquotedFrom d q cs j) ∧
      before = cs.take i ∧ after = cs.drop (i + 1) := by
  obtain ⟨rfl, hsealed⟩ := sealed_of_cutFirst h
  obtain ⟨hscan, hnone⟩ := sealedFrom_iff_unquoted.1 hsealed
  refine ⟨before.length, ⟨by simp, by simpa using hscan⟩, fun j hj hunquoted => ?_, by simp, by simp⟩
  exact hnone j ((unquotedFrom_append_left hj).1 hunquoted)

/-! ## All cuts -/

/-- Where the `k`-th piece begins, if there is one character between each piece and the next. -/
def offset (ps : List (List Char)) (k : Nat) : Nat := ((ps.take k).map fun p => p.length + 1).sum

/-- The pieces are what is left of a text that is cut at all unquoted places of `d` and nowhere else. No
place is looked at otherwise in its piece than in the text. -/
structure Cutting (d : Char) (cs : List Char) (ps : List (List Char)) : Prop where
  joined : [d].intercalate ps = cs
  cuts : ∀ i, Unquoted d cs i ↔ ∃ k, k + 1 < ps.length ∧ i + 1 = offset ps (k + 1)
  agrees : ∀ k p, ps[k]? = some p → ∀ e, ∀ i < p.length, Unquoted e cs (offset ps k + i) ↔ Unquoted e p i

theorem offset_zero (ps : List (List Char)) : offset ps 0 = 0 := rfl

theorem offset_cons_succ (p : List Char) (ps : List (List Char)) (k : Nat) :
    offset (p :: ps) (k + 1) = p.length + 1 + offset ps k := by simp [offset]

/-- A text without unquoted places is one piece. -/
theorem cutting_single (h : ∀ i, ¬ Unquoted d cs i) : Cutting d cs [cs] where
  joined := by simp [List.intercalate]
  cuts i := by
    refine ⟨fun hi => absurd hi (h i), ?_⟩
    rintro ⟨k, hlt, -⟩
    rw [List.length_singleton] at hlt
    omega
  agrees k p hp e i _ := by
    obtain ⟨hk, rfl⟩ := List.getElem?_eq_some_iff.1 hp
    obtain rfl : k = 0 := by simpa using hk
    rw [offset_zero, Nat.zero_add]
    rfl

/-- Behind a delimiter that stands outside strings a text is looked at as if it began there. -/
theorem unquoted_behind (hd : d ≠ '"') (has : QuoteState.outside.scan as = .outside) :
    Unquoted e (as ++ d :: bs) (as.length + 1 + i) ↔ Unquoted e bs i := by
  have hstep : QuoteState.outside.step d = .outside := if_neg hd
  rw [Unquoted, Nat.add_assoc, unquotedFrom_append_right, has, Nat.add_comm 1 i, unquotedFrom_succ, hstep]
  rfl

/-- A sealed text in front is one more piece. -/
theorem Cutting.cons (hd : d ≠ '"') (has : Sealed (· = d) as) (h : Cutting d bs ps) (hn : ps ≠ []) :
    Cutting d (as ++ d :: bs) (as :: ps) := by
  obtain ⟨hscan, hnone⟩ := sealedFrom_iff_unquoted.1 has
  obtain ⟨p, ps, rfl⟩ := List.exists_cons_of_ne_nil hn
  refine ⟨?joined, fun i => ?cuts, fun k p' hp' e i hi => ?agrees⟩
  case joined =>
    rw [← h.joined]
    simp [List.intercalate]
  case cuts =>
    -- A place lies in the first piece, at the delimiter behind it, or behind that.
    rcases Nat.lt_trichotomy i as.length with hi | rfl | hi
    · rw [Unquoted, unquotedFrom_append_left hi]
      refine ⟨fun hunquoted => absurd hunquoted (hnone i), ?_⟩
      rintro ⟨k, -, hoffset⟩
      rw [offset_cons_succ] at hoffset
      omega
    · refine ⟨fun _ => ⟨0, by simp, by rw [offset_cons_succ, offset_zero]⟩, fun _ => ?_⟩
      exact ⟨by simp, by simpa using hscan⟩
    · obtain ⟨j, rfl⟩ := Nat.exists_eq_add_of_le (Nat.succ_le_of_lt hi)
      rw [Nat.succ_eq_add_one, unquoted_behind hd hscan, h.cuts]
      constructor
      · rintro ⟨k, hlt, hoffset⟩
        exact ⟨k + 1, Nat.succ_lt_succ hlt, by rw [offset_cons_succ]; omega⟩
      · rintro ⟨k, hlt, hoffset⟩
        rw [offset_cons_succ] at hoffset
        cases k with
        | zero =>
          rw [offset_zero] at hoffset
          omega
        | succ k => exact ⟨k, Nat.lt_of_succ_lt_succ hlt, by omega⟩
  case agrees =>
    cases k with
    | zero =>
      obtain rfl : as = p' := Option.some.inj hp'
      rw [offset_zero, Nat.zero_add]
      exact unquotedFrom_append_left hi
    | succ k =>
      rw [offset_cons_succ, Nat.add_assoc, unquoted_behind hd hscan]
      exact h.agrees k p' hp' e i hi

theorem pieces_of_cutFirst_eq_none (h : cutFirst d q cs = none) : pieces d q cs = [cs] := by
  induction cs generalizing q with
  | nil => rfl
  | cons c cs ih =>
    rw [cutFirst] at h
    split at h
    · cases h
    · next hc => rw [pieces, if_neg hc, ih (Option.map_eq_none_iff.1 h), consFirst]

theorem cutting_pieces (hd : d ≠ '"') (cs : List Char) : Cutting d cs (pieces d .outside cs) := by
  cases h : cutFirst d .outside cs with
  | none =>
    rw [pieces_of_cutFirst_eq_none h]
    exact cutting_single (cutFirst_eq_none_iff.1 h)
  | some parts =>
    obtain ⟨before, after⟩ := parts
    obtain ⟨rfl, hsealed⟩ := sealed_of_cutFirst h
    rw [pieces_append_of_sealedFrom hsealed]
    exact (cutting_pieces hd after).cons hd hsealed (pieces_ne_nil d _ after)
termination_by cs.length
decreasing_by
  subst_vars
  simp only [List.length_append, List.length_cons]
  omega

theorem consFirst_append {c : Char} (hn : ps ≠ []) (rs : List (List Char)) :
    consFirst c (ps ++ rs) = consFirst c ps ++ rs := by
  obtain ⟨p, ps, rfl⟩ := List.exists_cons_of_ne_nil hn
  rfl

/-- A text whose scan ends outside strings is cut apart from what follows the next delimiter. -/
theorem pieces_append (hd : d ≠ '"') (h : q.scan as = .outside) (bs : List Char) :
    pieces d q (as ++ d :: bs) = pieces d q as ++ pieces d .outside bs := by
  induction as generalizing q with
  | nil =>
    obtain rfl : q = .outside := h
    have hsealed : SealedFrom (· = d) .outside [] := rfl
    exact pieces_append_of_sealedFrom hsealed bs
  | cons a as ih =>
    rw [scan_cons] at h
    rw [List.cons_append, pieces, pieces]
    by_cases ha : q = .outside ∧ a = d
    · have hstep : q.step a = .outside := by rw [ha.1, ha.2]; exact if_neg hd
      rw [hstep] at h
      rw [if_pos ha, if_pos ha, ih h, List.cons_append]
    · rw [if_neg ha, if_neg ha, ih h, consFirst_append (pieces_ne_nil d _ as)]

end FaultInjection.Text
