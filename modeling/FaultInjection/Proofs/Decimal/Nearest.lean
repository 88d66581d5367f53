import FaultInjection.Decimal.Binary64
import Mathlib.Tactic.Ring
import Mathlib.Order.Monotone.Basic

/-!
# Rounding to the nearest double

`IsNearest num den m` says that no magnitude stands nearer to `num / den` than `m`, and that of two
equally near ones `m` is the even one. Magnitudes from `infinityMagnitude` on go on with larger
exponents, so a number overflows exactly when its nearest magnitude is one of those.
`isNearest_iff` says that `nearestMagnitude` is the only one that is nearest.
-/

namespace FaultInjection.Decimal

open Binary64

/-- A numerator in units of two to the power of minus 1074. -/
def inUnits (num : Nat) : Nat := num * Nat.pow 2 1074

theorem inUnits_zero : inUnits 0 = 0 := by simp only [inUnits, Nat.zero_mul]

/-- How far a magnitude stands from `num / den`, in `den`-th parts of a unit. -/
def gap (num den m : Nat) : Nat :=
  ((unitsOf m * den : Nat) - inUnits num : Int).natAbs

/-- No magnitude is nearer to `num / den` than `m`, and one that is equally near leaves `m` even. -/
def IsNearest (num den m : Nat) : Prop :=
  ∀ k, k ≠ m → gap num den m < gap num den k ∨ (gap num den m = gap num den k ∧ m % 2 = 0)

/-! ## Units of a magnitude -/

/-- A significand with its shift, as a magnitude. -/
def magnitudeOf (shift r : Nat) : Nat := shift * 2 ^ 52 + r

/-- A significand of at most fifty-three bits, full unless the shift is zero, is worth its shift. -/
theorem unitsOf_magnitudeOf {shift r : Nat} (hr : r ≤ 2 ^ 53) (hfull : shift = 0 ∨ 2 ^ 52 ≤ r) :
    unitsOf (magnitudeOf shift r) = r * 2 ^ shift := by
  have hpow : Nat.pow 2 52 = 2 ^ 52 := rfl
  rw [magnitudeOf, unitsOf, hpow]
  by_cases hsmall : r < 2 ^ 52
  · obtain rfl : shift = 0 := by omega
    have h0 : (0 * 2 ^ 52 + r) / 2 ^ 52 = 0 := by omega
    simp only [h0, if_true]
    omega
  · by_cases htop : r = 2 ^ 53
    · subst htop
      have h1 : (shift * 2 ^ 52 + 2 ^ 53) / 2 ^ 52 = shift + 2 := by omega
      have h2 : (shift * 2 ^ 52 + 2 ^ 53) % 2 ^ 52 = 0 := by omega
      simp only [h1, h2]
      rw [if_neg (by omega)]
      exact (show 2 ^ 52 * 2 ^ (shift + 1) = 2 ^ 53 * 2 ^ shift by rw [Nat.pow_succ 2 shift]; ring)
    · have h1 : (shift * 2 ^ 52 + r) / 2 ^ 52 = shift + 1 := by omega
      have h2 : 2 ^ 52 + (shift * 2 ^ 52 + r) % 2 ^ 52 = r := by omega
      simp only [h1, h2]
      rw [if_neg (by omega)]
      rfl

/-- Every magnitude is a significand below fifty-three bits with its shift. -/
theorem exists_magnitudeOf (m : Nat) :
    ∃ shift r, r < 2 ^ 53 ∧ (shift = 0 ∨ 2 ^ 52 ≤ r) ∧ m = magnitudeOf shift r := by
  by_cases h : m < 2 ^ 53
  · exact ⟨0, m, h, .inl rfl, by simp [magnitudeOf]⟩
  · refine ⟨m / 2 ^ 52 - 1, 2 ^ 52 + m % 2 ^ 52, by omega, .inr (by omega), ?_⟩
    rw [magnitudeOf]
    omega

theorem unitsOf_lt_succ (m : Nat) : unitsOf m < unitsOf (m + 1) := by
  obtain ⟨shift, r, hr, hfull, rfl⟩ := exists_magnitudeOf m
  have hnext : magnitudeOf shift r + 1 = magnitudeOf shift (r + 1) := Nat.add_assoc _ _ _
  rw [hnext, unitsOf_magnitudeOf (by omega) hfull, unitsOf_magnitudeOf hr (by omega)]
  exact Nat.mul_lt_mul_of_pos_right (Nat.lt_succ_self r) (Nat.two_pow_pos shift)

/-- Magnitudes are ordered as the numbers they stand for. -/
theorem unitsOf_strictMono : StrictMono unitsOf := strictMono_nat_of_lt_succ unitsOf_lt_succ

/-! ## Rounding a quotient to a natural number -/

section Quotient

variable (num : Nat) {den : Nat}

/-- How far a natural number stands from `num / den`, in `den`-th parts. -/
def offset (num den k : Nat) : Nat := ((k * den : Nat) - num : Int).natAbs

theorem offset_div (hd : 0 < den) : offset num den (num / den) = num % den := by
  have hdiv : num / den * den + num % den = num := Nat.div_add_mod' num den
  have hlt := Nat.mod_lt num hd
  rw [offset]
  omega

theorem offset_div_succ (hd : 0 < den) : offset num den (num / den + 1) = den - num % den := by
  have hdiv : num / den * den + num % den = num := Nat.div_add_mod' num den
  have hlt := Nat.mod_lt num hd
  rw [offset, Nat.succ_mul]
  omega

theorem lt_offset_of_lt (hd : 0 < den) {k : Nat} (hk : k < num / den) :
    num % den < offset num den k ∧ den ≤ offset num den k := by
  have hdiv : num / den * den + num % den = num := Nat.div_add_mod' num den
  have hle := Nat.mul_le_mul_right den hk
  rw [Nat.succ_mul] at hle
  rw [offset]
  omega

theorem lt_offset_of_gt (hd : 0 < den) {k : Nat} (hk : num / den + 1 < k) :
    den - num % den < offset num den k ∧ den ≤ offset num den k := by
  have hdiv : num / den * den + num % den = num := Nat.div_add_mod' num den
  have hlt := Nat.mod_lt num hd
  have hle := Nat.mul_le_mul_right den hk
  rw [Nat.succ_mul, Nat.succ_mul] at hle
  rw [offset]
  omega

/-- The rounded quotient is nearest among the natural numbers, and even where another is as near. -/
theorem roundHalfEven_nearest (hd : 0 < den) {k : Nat} (hk : k ≠ roundHalfEven num den) :
    offset num den (roundHalfEven num den) < offset num den k ∨
      (offset num den (roundHalfEven num den) = offset num den k ∧ roundHalfEven num den % 2 = 0) := by
  have hdown := offset_div num hd
  have hup := offset_div_succ num hd
  have hlt := Nat.mod_lt num hd
  by_cases hround : 2 * (num % den) < den ∨ (2 * (num % den) = den ∧ num / den % 2 = 0)
  · have hq : roundHalfEven num den = num / den := if_pos hround
    rw [hq] at hk ⊢
    rcases Nat.lt_trichotomy k (num / den + 1) with h | rfl | h
    · have := lt_offset_of_lt num hd (k := k) (by omega)
      omega
    · omega
    · have := lt_offset_of_gt num hd h
      omega
  · have hq : roundHalfEven num den = num / den + 1 := if_neg hround
    rw [hq] at hk ⊢
    rcases Nat.lt_trichotomy k (num / den) with h | rfl | h
    · have := lt_offset_of_lt num hd h
      omega
    · omega
    · have := lt_offset_of_gt num hd (k := k) (by omega)
      omega

end Quotient

/-! ## Rounding to a magnitude -/

/-- A significand stands as far from a number as it does after both are divided by its shift. -/
theorem gap_magnitudeOf {num den shift r : Nat} (hr : r ≤ 2 ^ 53) (hfull : shift = 0 ∨ 2 ^ 52 ≤ r) :
    gap num den (magnitudeOf shift r) = offset (inUnits num) (den * 2 ^ shift) r := by
  rw [gap, offset, unitsOf_magnitudeOf hr hfull, Nat.mul_assoc, Nat.mul_comm (2 ^ shift) den]

theorem roundHalfEven_bounds (num den : Nat) :
    num / den ≤ roundHalfEven num den ∧ roundHalfEven num den ≤ num / den + 1 := by
  rw [roundHalfEven]
  split <;> omega

/-- The shift that leaves a quotient fifty-three bits or fewer. -/
def shiftOf (scaled den : Nat) : Nat := Nat.log2 (scaled / den) - 52

theorem nearestMagnitude_eq (num den : Nat) : nearestMagnitude num den =
    magnitudeOf (shiftOf (inUnits num) den)
      (roundHalfEven (inUnits num) (den * 2 ^ shiftOf (inUnits num) den)) := rfl

theorem shifted_quotient_bounds (scaled den : Nat) :
    scaled / (den * 2 ^ shiftOf scaled den) < 2 ^ 53 ∧
      (shiftOf scaled den = 0 ∨ 2 ^ 52 ≤ scaled / (den * 2 ^ shiftOf scaled den)) := by
  rw [← Nat.div_div_eq_div_mul, shiftOf]
  generalize scaled / den = q
  have hupper : q < 2 ^ (Nat.log2 q + 1) := Nat.lt_log2_self
  constructor
  · rw [Nat.div_lt_iff_lt_mul (Nat.two_pow_pos _), ← Nat.pow_add]
    exact Nat.lt_of_lt_of_le hupper (Nat.pow_le_pow_right (by decide) (by omega))
  · by_cases hL : Nat.log2 q ≤ 52
    · exact .inl (by omega)
    · right
      have hq : q ≠ 0 := by
        rintro rfl
        exact hL (by decide)
      rw [Nat.le_div_iff_mul_le (Nat.two_pow_pos _), ← Nat.pow_add]
      have hexp : 52 + (Nat.log2 q - 52) = Nat.log2 q := by omega
      rw [hexp]
      exact Nat.log2_self_le hq

/-- A magnitude with a smaller shift lies further below a number than the least one with this shift. -/
theorem gap_lt_gap_of_shift_lt {num den shift shift' r' : Nat} (hd : 0 < den)
    (hfull : 2 ^ 52 ≤ inUnits num / (den * 2 ^ shift)) (hr' : r' < 2 ^ 53)
    (hfull' : shift' = 0 ∨ 2 ^ 52 ≤ r') (hlt : shift' < shift) :
    gap num den (magnitudeOf shift (2 ^ 52)) < gap num den (magnitudeOf shift' r') := by
  have hunits : r' * 2 ^ shift' < 2 ^ 52 * 2 ^ shift := by
    calc r' * 2 ^ shift' < 2 ^ 53 * 2 ^ shift' := Nat.mul_lt_mul_of_pos_right hr' (Nat.two_pow_pos _)
      _ = 2 ^ 52 * 2 ^ (shift' + 1) := by rw [Nat.pow_succ 2 shift']; ring
      _ ≤ 2 ^ 52 * 2 ^ shift := Nat.mul_le_mul_left _ (Nat.pow_le_pow_right (by decide) hlt)
  have hbelow : 2 ^ 52 * 2 ^ shift * den ≤ inUnits num := by
    rw [Nat.mul_assoc, Nat.mul_comm (2 ^ shift) den]
    exact (Nat.le_div_iff_mul_le (Nat.mul_pos hd (Nat.two_pow_pos _))).1 hfull
  have hden : r' * 2 ^ shift' * den < 2 ^ 52 * 2 ^ shift * den := Nat.mul_lt_mul_of_pos_right hunits hd
  rw [gap, gap, unitsOf_magnitudeOf (by omega) hfull',
    unitsOf_magnitudeOf (by decide) (.inr (Nat.le_refl _))]
  generalize inUnits num = scaled at *
  omega

/-- `nearestMagnitude` is nearest. -/
theorem isNearest_nearestMagnitude {num den : Nat} (hd : 0 < den) :
    IsNearest num den (nearestMagnitude num den) := by
  intro k hk
  rw [nearestMagnitude_eq] at hk ⊢
  obtain ⟨hq, hfullq⟩ := shifted_quotient_bounds (inUnits num) den
  generalize shiftOf (inUnits num) den = shift at *
  have hD : 0 < den * 2 ^ shift := Nat.mul_pos hd (Nat.two_pow_pos _)
  obtain ⟨hr1, hr2⟩ := roundHalfEven_bounds (inUnits num) (den * 2 ^ shift)
  have hround := fun j (hj : j ≠ _) => roundHalfEven_nearest (inUnits num) hD (k := j) hj
  generalize roundHalfEven (inUnits num) (den * 2 ^ shift) = r at *
  have hr : r ≤ 2 ^ 53 := by omega
  have hfull : shift = 0 ∨ 2 ^ 52 ≤ r := by omega
  have hparity : magnitudeOf shift r % 2 = r % 2 := by
    rw [magnitudeOf]
    omega
  rw [gap_magnitudeOf hr hfull, hparity]
  obtain ⟨shift', r', hr', hfull', rfl⟩ := exists_magnitudeOf k
  by_cases hshift : shift ≤ shift'
  · -- the other magnitude lies on the same grid
    have hgap : gap num den (magnitudeOf shift' r') =
        offset (inUnits num) (den * 2 ^ shift) (r' * 2 ^ (shift' - shift)) := by
      have hpow : 2 ^ (shift' - shift) * 2 ^ shift = 2 ^ shift' := by
        rw [← Nat.pow_add, Nat.sub_add_cancel hshift]
      have hscale : r' * 2 ^ (shift' - shift) * (den * 2 ^ shift) = r' * 2 ^ shift' * den := by
        rw [← hpow]
        ring
      rw [gap, offset, unitsOf_magnitudeOf (by omega) hfull', hscale]
    rw [hgap]
    refine hround _ fun heq => hk (unitsOf_strictMono.injective ?_)
    rw [unitsOf_magnitudeOf (by omega) hfull', unitsOf_magnitudeOf hr hfull, ← heq, Nat.mul_assoc,
      ← Nat.pow_add, Nat.sub_add_cancel hshift]
  · have hfine : 2 ^ 52 ≤ inUnits num / (den * 2 ^ shift) := by omega
    have hlt := gap_lt_gap_of_shift_lt hd hfine hr' hfull' (by omega)
    rw [gap_magnitudeOf (by decide) (.inr (Nat.le_refl _))] at hlt
    left
    by_cases heq : 2 ^ 52 = r
    · rwa [heq] at hlt
    · rcases hround _ heq with h | h
      · exact h.trans hlt
      · exact h.1.trans_lt hlt

/-- At most one magnitude is nearest: of two equally near ones that are even, one between is nearer. -/
theorem IsNearest.unique {num den m m' : Nat} (hd : 0 < den) (h : IsNearest num den m)
    (h' : IsNearest num den m') : m = m' := by
  wlog hlt : m < m' generalizing m m'
  · rcases Nat.lt_trichotomy m m' with hl | rfl | hg
    · exact absurd hl hlt
    · rfl
    · exact (this h' h hg).symm
  exfalso
  have hgap := h m' (by omega)
  have hgap' := h' m (by omega)
  have hmid := h (m + 1) (by omega)
  have hu : unitsOf m * den < unitsOf (m + 1) * den :=
    Nat.mul_lt_mul_of_pos_right (unitsOf_lt_succ m) hd
  have hu' : unitsOf (m + 1) * den < unitsOf m' * den :=
    Nat.mul_lt_mul_of_pos_right (unitsOf_strictMono (by omega)) hd
  simp only [gap] at hgap hgap' hmid
  generalize inUnits num = scaled at *
  omega

/-- The magnitude that `nearestMagnitude` finds is the only nearest one. -/
theorem isNearest_iff {num den m : Nat} (hd : 0 < den) :
    IsNearest num den m ↔ m = nearestMagnitude num den := by
  constructor
  · exact fun h => h.unique hd (isNearest_nearestMagnitude hd)
  · rintro rfl
    exact isNearest_nearestMagnitude hd

end FaultInjection.Decimal
