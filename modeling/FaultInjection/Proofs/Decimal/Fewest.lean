import FaultInjection.Proofs.Decimal.Digits
import FaultInjection.Proofs.Decimal.Shortest
import Mathlib.Data.Nat.Cast.Order.Field
import Mathlib.Data.Rat.Lemmas
import Mathlib.Tactic.Positivity

/-!
# No fewer digits read back

`Briefest m v` says of a decimal number that `m` is the magnitude nearest to it, that no decimal of fewer digits
has this magnitude for its nearest one, and that none of as many digits lies closer to what `m` stands for. There
is at most one such number (`Briefest.unique`), and `briefest_shortest` says that `shortest` finds it when ties go
up: of all decimals with `k` digits only the two next to a magnitude have to be looked at (`Around.split`), and
seventeen digits always suffice, since one of the two then lies closer than half the way to the next magnitude
(`exists_hasDigits_seventeen`).
-/

namespace FaultInjection.Decimal

open Binary64

/-! ## Nearness -/

section Nearness

variable {u v w : ℚ} {k m : Nat}

theorem NearestTo.nonneg (h : NearestTo v m) : 0 ≤ v := by
  obtain ⟨num, den, -, rfl, -⟩ := h
  positivity

theorem exists_nearestTo (hv : 0 ≤ v) : ∃ m, NearestTo v m := by
  have hnum : ((v.num.toNat : ℤ) : ℚ) = v.num := by rw [Int.toNat_of_nonneg (Rat.num_nonneg.2 hv)]
  refine ⟨_, v.num.toNat, v.den, v.den_pos, ?_, isNearest_nearestMagnitude v.den_pos⟩
  rw [← Int.cast_natCast v.num.toNat, hnum, Rat.num_div_den]

/-- What lies between two numbers with the same nearest magnitude has it too. -/
theorem NearestTo.between (hu : NearestTo u m) (hw : NearestTo w m) (huv : u ≤ v) (hvw : v ≤ w) :
    NearestTo v m := by
  obtain ⟨m', hv⟩ := exists_nearestTo (hu.nonneg.trans huv)
  obtain rfl : m = m' := Nat.le_antisymm (hu.mono huv hv) (hv.mono hvw hw)
  exact hv

theorem cast_gap {den : Nat} (hd : 0 < den) (num k : Nat) :
    (gap num den k : ℚ) = |magnitudeValue k - num / den| * (den * inUnits 1) := by
  have hunit : (0 : ℚ) < inUnits 1 := by exact_mod_cast inUnits_one_pos
  have hden : (0 : ℚ) < den := by exact_mod_cast hd
  have hcross {a n d u : ℚ} (hd : d ≠ 0) (hu : u ≠ 0) : a * d - n * u = (a / u - n / d) * (d * u) := by field_simp
  have hscaled : ((unitsOf k * den : Nat) - inUnits num : ℚ) =
      (magnitudeValue k - num / den) * (den * inUnits 1) := by
    rw [magnitudeValue, inUnits_eq num, Nat.cast_mul, Nat.cast_mul]
    exact hcross hden.ne' hunit.ne'
  rw [gap, Nat.cast_natAbs, Int.cast_abs, Int.cast_sub, Int.cast_natCast, Int.cast_natCast, hscaled, abs_mul,
    abs_of_pos (mul_pos hden hunit)]

/-- No magnitude stands for a number that is closer. -/
theorem NearestTo.abs_le (h : NearestTo v m) (k : Nat) : |magnitudeValue m - v| ≤ |magnitudeValue k - v| := by
  obtain ⟨num, den, hd, rfl, hn⟩ := h
  by_cases hk : k = m
  · rw [hk]
  · have hle : gap num den m ≤ gap num den k := by
      rcases hn k hk with hlt | ⟨heq, -⟩
      · exact hlt.le
      · exact heq.le
    have hunit : (0 : ℚ) < den * inUnits 1 := by
      exact_mod_cast Nat.mul_pos hd inUnits_one_pos
    have hcast : (gap num den m : ℚ) ≤ gap num den k := by exact_mod_cast hle
    rw [cast_gap hd, cast_gap hd] at hcast
    exact le_of_mul_le_mul_right hcast hunit

/-- Two successive magnitudes are one step of their shift apart, of which they have less than fifty-three bits. -/
theorem exists_step (n : Nat) : ∃ r step, r + 1 ≤ 2 ^ 53 ∧ unitsOf n = r * step ∧ unitsOf (n + 1) = (r + 1) * step := by
  obtain ⟨shift, r, hr, hfull, rfl⟩ := exists_magnitudeOf n
  have hnext : magnitudeOf shift r + 1 = magnitudeOf shift (r + 1) := Nat.add_assoc _ _ _
  refine ⟨r, 2 ^ shift, hr, unitsOf_magnitudeOf (by omega) hfull, ?_⟩
  rw [hnext, unitsOf_magnitudeOf hr (by omega)]

/-- A magnitude keeps its distance from every other, in proportion to what it stands for. -/
theorem unitsOf_le_distance (h : k ≠ m) : unitsOf m ≤ 2 ^ 53 * ((unitsOf k : ℤ) - unitsOf m).natAbs := by
  have hdistance {r step : Nat} (hr : r ≤ 2 ^ 53) (hm : unitsOf m = r * step)
      (hstep : step ≤ ((unitsOf k : ℤ) - unitsOf m).natAbs) :
      unitsOf m ≤ 2 ^ 53 * ((unitsOf k : ℤ) - unitsOf m).natAbs := by
    calc unitsOf m = r * step := hm
      _ ≤ 2 ^ 53 * ((unitsOf k : ℤ) - unitsOf m).natAbs := Nat.mul_le_mul hr hstep
  rcases Nat.lt_or_gt_of_ne h with hlt | hgt
  · obtain ⟨n, rfl⟩ : ∃ n, m = n + 1 := ⟨m - 1, by omega⟩
    obtain ⟨r, step, hr, hn, hnext⟩ := exists_step n
    have hmono := unitsOf_strictMono.monotone (Nat.le_of_lt_succ hlt)
    refine hdistance hr hnext ?_
    rw [Nat.succ_mul] at hnext
    omega
  · obtain ⟨r, step, hr, hm, hnext⟩ := exists_step m
    have hmono := unitsOf_strictMono.monotone (Nat.succ_le_of_lt hgt)
    refine hdistance (by omega) hm ?_
    rw [Nat.succ_mul] at hnext
    rw [Nat.succ_eq_add_one] at hmono
    omega

theorem magnitudeValue_le_distance (h : k ≠ m) :
    magnitudeValue m ≤ 2 ^ 53 * |magnitudeValue k - magnitudeValue m| := by
  have hunit : (0 : ℚ) < inUnits 1 := by exact_mod_cast inUnits_one_pos
  have hunits : (unitsOf m : ℚ) ≤ 2 ^ 53 * |(unitsOf k : ℚ) - unitsOf m| := by
    have hcast : (unitsOf m : ℚ) ≤ ((2 ^ 53 * ((unitsOf k : ℤ) - unitsOf m).natAbs : Nat) : ℚ) := by
      exact_mod_cast unitsOf_le_distance h
    rw [Nat.cast_mul, Nat.cast_natAbs, Int.cast_abs, Int.cast_sub, Int.cast_natCast, Int.cast_natCast] at hcast
    push_cast at hcast
    exact hcast
  rw [magnitudeValue, magnitudeValue, ← sub_div, abs_div, abs_of_pos hunit, ← mul_div_assoc]
  exact div_le_div_of_nonneg_right hunits hunit.le

/-- A number within half the distance to any other magnitude. -/
theorem nearestTo_of_near (hv : 0 ≤ v) (h : 2 ^ 54 * |magnitudeValue m - v| < magnitudeValue m) :
    NearestTo v m := by
  obtain ⟨k, hk⟩ := exists_nearestTo hv
  by_cases hne : k = m
  · rwa [← hne]
  · exfalso
    have hdistance := magnitudeValue_le_distance hne
    have hcloser := hk.abs_le m
    have htriangle : |magnitudeValue k - magnitudeValue m| ≤ |magnitudeValue k - v| + |magnitudeValue m - v| := by
      rw [abs_sub_comm (magnitudeValue m) v]
      exact abs_sub_le _ _ _
    linarith

end Nearness

/-! ## Decimals of so many digits -/

/-- A decimal number of at most `k` digits, wherever its point is. -/
def HasDigits (k : Nat) (v : ℚ) : Prop := ∃ (c : Nat) (e : Int), c < 10 ^ k ∧ v = c * 10 ^ e

/-- `v` is closer to a number than `w`, or is the greater one of two that are equally close. -/
def Closer (x v w : ℚ) : Prop := |v - x| < |w - x| ∨ (|v - x| = |w - x| ∧ w ≤ v)

/-- The decimal by which a magnitude is written: of those to which it is nearest, one with the fewest digits, and of
these the closest one. -/
structure Briefest (m : Nat) (v : ℚ) : Prop where
  nearest : NearestTo v m
  fewest : ∃ k, HasDigits k v ∧ (∀ j < k, ∀ w, HasDigits j w → ¬ NearestTo w m) ∧
    ∀ w, HasDigits k w → NearestTo w m → Closer (magnitudeValue m) v w

theorem Briefest.unique {m : Nat} {v w : ℚ} (hv : Briefest m v) (hw : Briefest m w) : v = w := by
  obtain ⟨k, hk, hless, hclosest⟩ := hv.fewest
  obtain ⟨k', hk', hless', hclosest'⟩ := hw.fewest
  obtain rfl : k = k' := by
    rcases Nat.lt_trichotomy k k' with hlt | heq | hgt
    · exact absurd hv.nearest (hless' k hlt v hk)
    · exact heq
    · exact absurd hw.nearest (hless k' hgt w hk')
  rcases hclosest w hk' hw.nearest with hlt | ⟨heq, hle⟩
  · rcases hclosest' v hk hv.nearest with hlt' | ⟨heq', -⟩
    · exact absurd hlt hlt'.not_gt
    · exact absurd hlt (by rw [heq']; exact lt_irrefl _)
  · rcases hclosest' v hk hv.nearest with hlt' | ⟨-, hle'⟩
    · exact absurd hlt' (by rw [heq]; exact lt_irrefl _)
    · exact le_antisymm hle' hle

theorem hasDigits_zero_iff {v : ℚ} : HasDigits 0 v ↔ v = 0 := by
  constructor
  · rintro ⟨c, e, hc, rfl⟩
    obtain rfl : c = 0 := by omega
    simp
  · rintro rfl
    exact ⟨0, 0, by decide, by simp⟩

theorem magnitudeValue_zero : magnitudeValue 0 = 0 := by
  have hunits : unitsOf 0 = 0 := by decide
  rw [magnitudeValue, hunits, Nat.cast_zero, zero_div]

/-- Only zero is written without a digit that counts. -/
theorem eq_zero_of_nearestTo_zero {m : Nat} (h : NearestTo 0 m) : m = 0 := by
  have hzero := nearestTo_magnitudeValue 0
  rw [magnitudeValue_zero] at hzero
  exact h.unique hzero

theorem briefest_zero : Briefest 0 0 where
  nearest := by
    have hzero := nearestTo_magnitudeValue 0
    rwa [magnitudeValue_zero] at hzero
  fewest := by
    refine ⟨0, hasDigits_zero_iff.2 rfl, fun j hj => absurd hj (Nat.not_lt_zero j), fun w hw _ => ?_⟩
    rw [hasDigits_zero_iff.1 hw]
    exact .inr ⟨rfl, le_rfl⟩

/-- Of two numbers around `x` the lower one is closer than what lies below it, and than what lies above both if `x`
lies before their middle. -/
theorem closer_lower {x a b w : ℚ} (ha : a ≤ x) (hw : w ≤ a ∨ (b ≤ w ∧ 2 * x < a + b)) : Closer x a w := by
  rw [Closer, abs_of_nonpos (by linarith)]
  rcases hw with hle | ⟨hge, hmiddle⟩
  · rw [abs_of_nonpos (by linarith)]
    rcases hle.lt_or_eq with hlt | heq
    · exact .inl (by linarith)
    · exact .inr ⟨by linarith, hle⟩
  · rw [abs_of_nonneg (by linarith)]
    exact .inl (by linarith)

/-- The upper one is closer than what lies above it, and than what lies below both unless `x` lies before their
middle. -/
theorem closer_upper {x a b w : ℚ} (hb : x ≤ b) (hw : (w ≤ a ∧ ¬ 2 * x < a + b) ∨ b ≤ w) : Closer x b w := by
  rw [Closer, abs_of_nonneg (by linarith)]
  rcases hw with ⟨hle, hmiddle⟩ | hge
  · rw [abs_of_nonpos (by linarith)]
    rcases lt_or_ge (b - x) (-(w - x)) with hlt | hge
    · exact .inl hlt
    · exact .inr ⟨by linarith, by linarith⟩
  · rw [abs_of_nonneg (by linarith)]
    rcases hge.lt_or_eq with hlt | heq
    · exact .inl (by linarith)
    · exact .inr ⟨by linarith, heq.ge⟩

/-- The decimals with `k` digits below and above a number, as `low` and its successor at a power of ten. -/
structure Around (x : ℚ) (k low : Nat) (e : Int) : Prop where
  full : 10 ^ (k - 1) ≤ low
  lt : low < 10 ^ k
  below : low * 10 ^ e ≤ x
  above : x < (low + 1) * 10 ^ e

namespace Around

variable {x v : ℚ} {k low : Nat} {e : Int}

theorem pos (h : Around x k low e) : 1 ≤ k := by
  by_contra hk
  have hfull := h.full
  have hlt := h.lt
  obtain rfl : k = 0 := by omega
  omega

theorem pow_pred (h : Around x k low e) : 10 ^ (k - 1) * 10 = 10 ^ k := by
  rw [← Nat.pow_succ, Nat.succ_eq_add_one, Nat.sub_add_cancel h.pos]

theorem hasDigits_below (h : Around x k low e) : HasDigits k (low * 10 ^ e) := ⟨low, e, h.lt, rfl⟩

/-- The upper one may be a power of ten, and then has a single digit. -/
theorem hasDigits_above (h : Around x k low e) : HasDigits k ((low + 1) * 10 ^ e) := by
  rcases Nat.lt_or_eq_of_le (Nat.succ_le_of_lt h.lt) with hlt | heq
  · exact ⟨low + 1, e, hlt, by push_cast; rfl⟩
  · have hpow := h.pow_pred
    have hpos : 0 < 10 ^ (k - 1) := Nat.pow_pos (by decide)
    refine ⟨10 ^ (k - 1), e + 1, by omega, ?_⟩
    have hlow : (low + 1 : ℚ) = (10 ^ (k - 1) : Nat) * 10 := by exact_mod_cast heq.trans hpow.symm
    rw [hlow, zpow_add_one₀ (by norm_num)]
    ring

/-- No decimal with so many digits lies between the two. -/
theorem split (h : Around x k low e) (hv : HasDigits k v) : v ≤ low * 10 ^ e ∨ (low + 1) * 10 ^ e ≤ v := by
  obtain ⟨c, e', hc, rfl⟩ := hv
  by_cases he : e ≤ e'
  · -- It is a whole number of steps.
    obtain ⟨j, rfl⟩ : ∃ j : Nat, e' = j + e := ⟨(e' - e).toNat, by omega⟩
    have hsteps : (c : ℚ) * 10 ^ ((j : ℤ) + e) = (c * 10 ^ j : Nat) * 10 ^ e := by
      rw [zpow_add₀ (by norm_num), zpow_natCast]
      push_cast
      ring
    rw [hsteps]
    rcases Nat.lt_or_ge low (c * 10 ^ j) with hlt | hge
    · right
      gcongr
      exact_mod_cast hlt
    · left
      gcongr
  · -- It has its digits further behind, so it is too small.
    left
    calc (c : ℚ) * 10 ^ e' ≤ (10 ^ k : Nat) * 10 ^ (e - 1) := by
          gcongr
          · norm_num
          · omega
      _ = (10 ^ (k - 1) : Nat) * 10 ^ e := by
          rw [← h.pow_pred, zpow_sub_one₀ (by norm_num)]
          push_cast
          ring
      _ ≤ low * 10 ^ e := by
          gcongr
          exact h.full

end Around

/-! ## The two neighbours that are tried -/

/-- The value of a magnitude with as many places as are looked at, cut to a whole number. -/
def wholeOf (m : Nat) : Nat := unitsOf m * Nat.pow 10 decimalPlaces / inUnits 1

/-- How many digits it has. -/
def digitCount (m : Nat) : Nat := (naturalDigits (wholeOf m)).length

/-- Its first `k` digits. -/
def lowOf (m k : Nat) : Nat := wholeOf m / 10 ^ (digitCount m - k)

/-- The power of ten of the last of them. -/
def powerOf (m k : Nat) : Int := (digitCount m : Int) - k - decimalPlaces

section Neighbours

variable {m k : Nat} {s : Scaled}

theorem cast_pow_ten (k : Nat) : ((Nat.pow 10 k : Nat) : ℚ) = 10 ^ k := Nat.cast_pow 10 k

/-- A quotient lies from what it is cut to up to the number behind that. -/
theorem cut_bounds {den : Nat} (hd : 0 < den) (num : Nat) :
    ((num / den : Nat) : ℚ) ≤ num / den ∧ (num / den : ℚ) < (num / den : Nat) + 1 := by
  have hlt := Nat.lt_mul_div_succ num hd
  rw [Nat.mul_comm] at hlt
  refine ⟨Nat.cast_div_le, ?_⟩
  rw [div_lt_iff₀ (by exact_mod_cast hd)]
  exact_mod_cast hlt

/-- A magnitude above zero has seventeen digits within the places, for it is at least one unit. -/
theorem seventeen_le_digitCount (hm : m ≠ 0) : 17 ≤ digitCount m := by
  have hone : 1 ≤ unitsOf m := by
    have hlt := unitsOf_strictMono (Nat.pos_of_ne_zero hm)
    omega
  have hwhole : 10 ^ 16 ≤ wholeOf m := by
    have hunit : 10 ^ 16 * inUnits 1 ≤ Nat.pow 10 decimalPlaces := by decide +kernel
    rw [wholeOf, Nat.le_div_iff_mul_le inUnits_one_pos]
    exact hunit.trans (Nat.le_mul_of_pos_left _ hone)
  have hlt : 10 ^ 16 < 10 ^ digitCount m := hwhole.trans_lt (naturalDigits_lt (wholeOf m))
  have hdigits := (Nat.pow_lt_pow_iff_right (by decide : 1 < 10)).1 hlt
  omega

theorem around_whole (m : Nat) : (wholeOf m : ℚ) ≤ magnitudeValue m * 10 ^ decimalPlaces ∧
    magnitudeValue m * 10 ^ decimalPlaces < wholeOf m + 1 := by
  have hvalue : magnitudeValue m * 10 ^ decimalPlaces =
      (unitsOf m * Nat.pow 10 decimalPlaces : Nat) / inUnits 1 := by
    rw [magnitudeValue, Nat.cast_mul, cast_pow_ten]
    ring
  rw [hvalue]
  exact cut_bounds inUnits_one_pos _

theorem zpow_powerOf (hk : k ≤ digitCount m) :
    (10 : ℚ) ^ powerOf m k = 10 ^ (digitCount m - k) / 10 ^ decimalPlaces := by
  have hpower : powerOf m k = ((digitCount m - k : Nat) : Int) - (decimalPlaces : Nat) := by
    rw [powerOf]
    omega
  rw [hpower, zpow_sub₀ (by norm_num), zpow_natCast, zpow_natCast]

/-- The first `k` digits are `k` digits, of which the first is not zero. -/
theorem lowOf_bounds (hm : m ≠ 0) (hk : 1 ≤ k) (hk' : k ≤ 17) : 10 ^ (k - 1) ≤ lowOf m k ∧ lowOf m k < 10 ^ k := by
  have hcount := seventeen_le_digitCount hm
  have hwhole : wholeOf m ≠ 0 := by
    intro hzero
    rw [digitCount, hzero] at hcount
    exact absurd hcount (by decide)
  have hpos : 0 < 10 ^ (digitCount m - k) := Nat.pow_pos (by decide)
  have hleast : 10 ^ (k - 1) * 10 ^ (digitCount m - k) = 10 ^ (digitCount m - 1) := by
    rw [← Nat.pow_add]
    congr 1
    omega
  have hmost : 10 ^ k * 10 ^ (digitCount m - k) = 10 ^ digitCount m := pow_mul_pow_sub 10 (by omega)
  constructor
  · rw [lowOf, Nat.le_div_iff_mul_le hpos, hleast]
    exact le_naturalDigits hwhole
  · rw [lowOf, Nat.div_lt_iff_lt_mul hpos, hmost]
    exact naturalDigits_lt (wholeOf m)

/-- The two numbers that are tried lie around the magnitude. -/
theorem around_low (hm : m ≠ 0) (hk : 1 ≤ k) (hk' : k ≤ 17) :
    Around (magnitudeValue m) k (lowOf m k) (powerOf m k) := by
  have hcount := seventeen_le_digitCount hm
  obtain ⟨hbelow, habove⟩ := around_whole m
  have hlow : lowOf m k * 10 ^ (digitCount m - k) ≤ wholeOf m := Nat.div_mul_le_self _ _
  have hhigh : wholeOf m + 1 ≤ (lowOf m k + 1) * 10 ^ (digitCount m - k) := by
    rw [Nat.mul_comm]
    exact Nat.lt_mul_div_succ _ (Nat.pow_pos (by decide))
  have hscale : (10 : ℚ) ^ powerOf m k = (10 ^ (digitCount m - k) : Nat) / 10 ^ decimalPlaces := by
    rw [zpow_powerOf (by omega)]
    push_cast
    rfl
  have hplaces : (0 : ℚ) < 10 ^ decimalPlaces := by positivity
  refine ⟨(lowOf_bounds hm hk hk').1, (lowOf_bounds hm hk hk').2, ?below, ?above⟩
  case below =>
    rw [hscale, ← mul_div_assoc, div_le_iff₀ hplaces]
    refine le_trans ?_ hbelow
    exact_mod_cast hlow
  case above =>
    rw [hscale, ← mul_div_assoc, lt_div_iff₀ hplaces]
    refine habove.trans_le ?_
    exact_mod_cast hhigh

theorem shortestWith_eq (tie : Tie) (m k : Nat) : shortestWith tie m (digitCount m) k =
    chooseNeighbour tie m (unitsOf m * Nat.pow 10 decimalPlaces) (inUnits 1 * Nat.pow 10 (digitCount m - k))
      (lowOf m k) (powerOf m k) := by
  have hlow : unitsOf m * Nat.pow 10 decimalPlaces / (inUnits 1 * Nat.pow 10 (digitCount m - k)) = lowOf m k := by
    rw [lowOf, wholeOf, Nat.div_div_eq_div_mul]
    rfl
  rw [shortestWith, ← inUnits_one, ← hlow]
  rfl

/-- The fraction that is cut is what the magnitude stands for, in units of the last digit. -/
theorem magnitudeValue_eq (hk : k ≤ digitCount m) : magnitudeValue m =
    (unitsOf m * Nat.pow 10 decimalPlaces : Nat) / (inUnits 1 * Nat.pow 10 (digitCount m - k) : Nat) *
      10 ^ powerOf m k := by
  have hunit : (inUnits 1 : ℚ) ≠ 0 := by exact_mod_cast inUnits_one_pos.ne'
  rw [zpow_powerOf hk, magnitudeValue, Nat.cast_mul, Nat.cast_mul, cast_pow_ten, cast_pow_ten]
  field_simp

theorem two_mul_num_lt_iff (hk : k ≤ digitCount m) (low : Nat) :
    2 * (unitsOf m * Nat.pow 10 decimalPlaces) < (2 * low + 1) * (inUnits 1 * Nat.pow 10 (digitCount m - k)) ↔
      2 * magnitudeValue m < (2 * low + 1) * 10 ^ powerOf m k := by
  have hden : 0 < inUnits 1 * Nat.pow 10 (digitCount m - k) :=
    Nat.mul_pos inUnits_one_pos (Nat.pow_pos (by decide))
  have hpow : (0 : ℚ) < 10 ^ powerOf m k := by positivity
  rw [magnitudeValue_eq hk]
  generalize unitsOf m * Nat.pow 10 decimalPlaces = num
  generalize inUnits 1 * Nat.pow 10 (digitCount m - k) = den at hden ⊢
  have hden' : (0 : ℚ) < den := by exact_mod_cast hden
  rw [← mul_assoc, mul_lt_mul_iff_left₀ hpow, ← mul_div_assoc, div_lt_iff₀ hden']
  exact_mod_cast Iff.rfl

/-! ## The search -/

/-- If a decimal with `k` digits reads back, so does the neighbour on its side. -/
theorem nearestTo_neighbour {low : Nat} {e : Int} {v : ℚ} (h : Around (magnitudeValue m) k low e)
    (hv : HasDigits k v) (hn : NearestTo v m) :
    (v ≤ low * 10 ^ e ∧ NearestTo (low * 10 ^ e) m) ∨ ((low + 1) * 10 ^ e ≤ v ∧ NearestTo ((low + 1) * 10 ^ e) m) := by
  have hself := nearestTo_magnitudeValue m
  rcases h.split hv with hle | hge
  · exact .inl ⟨hle, hn.between hself hle h.below⟩
  · exact .inr ⟨hge, hself.between hn h.above.le hge⟩

theorem value_succ (low : Nat) (e : Int) : Scaled.value ⟨low + 1, e⟩ = (low + 1) * 10 ^ e := by
  rw [Scaled.value]
  push_cast
  rfl

/-- With `k` digits the number that is chosen reads back, and is the closest that does. -/
theorem closest_of_shortestWith (hm : m ≠ 0) (hk : 1 ≤ k) (hk' : k ≤ 17)
    (h : shortestWith .up m (digitCount m) k = some s) : HasDigits k s.value ∧ NearestTo s.value m ∧
      ∀ w, HasDigits k w → NearestTo w m → Closer (magnitudeValue m) s.value w := by
  have hcount := seventeen_le_digitCount hm
  have haround := around_low hm hk hk'
  have hmiddle := two_mul_num_lt_iff (m := m) (k := k) (by omega) (lowOf m k)
  rw [shortestWith_eq] at h
  obtain ⟨hlower, hupper⟩ := nearer_of_betterNeighbour h
  rw [hmiddle] at hlower
  rw [← Nat.not_lt, hmiddle] at hupper
  rw [Scaled.roundsTo_iff, value_succ] at hlower
  rw [Scaled.roundsTo_iff, Scaled.value] at hupper
  have hmean : (2 * lowOf m k + 1 : ℚ) * 10 ^ powerOf m k =
      lowOf m k * 10 ^ powerOf m k + (lowOf m k + 1) * 10 ^ powerOf m k := by ring
  rw [hmean] at hlower hupper
  rcases reads_of_betterNeighbour h with ⟨hs, hreads⟩ | ⟨hs, hreads⟩
  · rw [Scaled.roundsTo_iff] at hreads
    have hvalue : s.value = lowOf m k * 10 ^ powerOf m k := by rw [hs, Scaled.value]
    rw [hvalue]
    refine ⟨haround.hasDigits_below, hreads, fun w hw hn => ?_⟩
    refine closer_lower (b := (lowOf m k + 1) * 10 ^ powerOf m k) haround.below ?_
    rcases nearestTo_neighbour haround hw hn with ⟨hle, -⟩ | ⟨hge, hother⟩
    · exact .inl hle
    · exact .inr ⟨hge, hlower hs hother⟩
  · rw [Scaled.roundsTo_iff, value_succ] at hreads
    have hvalue : s.value = (lowOf m k + 1) * 10 ^ powerOf m k := by rw [hs, value_succ]
    rw [hvalue]
    refine ⟨haround.hasDigits_above, hreads, fun w hw hn => ?_⟩
    refine closer_upper (a := lowOf m k * 10 ^ powerOf m k) haround.above.le ?_
    rcases nearestTo_neighbour haround hw hn with ⟨hle, hother⟩ | ⟨hge, -⟩
    · exact .inl ⟨hle, hupper hs hother⟩
    · exact .inr hge

/-- If nothing is chosen, then no decimal with `k` digits reads back. -/
theorem not_nearestTo_of_shortestWith (hm : m ≠ 0) (hk : 1 ≤ k) (hk' : k ≤ 17) {tie : Tie}
    (h : shortestWith tie m (digitCount m) k = none) {w : ℚ} (hw : HasDigits k w) : ¬ NearestTo w m := by
  intro hn
  rw [shortestWith_eq] at h
  obtain ⟨hbelow, habove⟩ := betterNeighbour_eq_none h
  rw [← Bool.not_eq_true, Scaled.roundsTo_iff] at hbelow habove
  rw [value_succ] at habove
  rcases nearestTo_neighbour (around_low hm hk hk') hw hn with ⟨-, hreads⟩ | ⟨-, hreads⟩
  · exact hbelow hreads
  · exact habove hreads

/-- Of the two neighbours with seventeen digits, the nearer one reads back. -/
theorem exists_hasDigits_seventeen (hm : m ≠ 0) : ∃ v, HasDigits 17 v ∧ NearestTo v m := by
  have haround := around_low hm (k := 17) (by decide) (le_refl 17)
  generalize lowOf m 17 = low at haround
  generalize powerOf m 17 = e at haround
  have hstep : (0 : ℚ) < 10 ^ e := by positivity
  have hfull : (10 : ℚ) ^ 16 ≤ low := by exact_mod_cast haround.full
  have hscaled : (10 : ℚ) ^ 16 * 10 ^ e ≤ magnitudeValue m :=
    (mul_le_mul_of_nonneg_right hfull hstep.le).trans haround.below
  have hbelow := haround.below
  have habove := haround.above
  have hnext : (low + 1 : ℚ) * 10 ^ e = low * 10 ^ e + 10 ^ e := by ring
  rcases le_total (2 * (magnitudeValue m - low * 10 ^ e)) (10 ^ e) with hle | hge
  · refine ⟨_, haround.hasDigits_below, nearestTo_of_near (by positivity) ?_⟩
    rw [abs_of_nonneg (by linarith)]
    linarith
  · refine ⟨_, haround.hasDigits_above, nearestTo_of_near (by positivity) ?_⟩
    rw [abs_of_nonpos (by linarith)]
    linarith

/-- The search stops at the first count of digits for which a number is chosen. -/
theorem findSome?_range'_eq_some {f : Nat → Option Scaled} {n : Nat}
    (h : (List.range' 1 n).findSome? f = some s) : ∃ k, 1 ≤ k ∧ k ≤ n ∧ f k = some s ∧
      ∀ j, 1 ≤ j → j < k → f j = none := by
  obtain ⟨before, k, after, hsplit, hk, hbefore⟩ := List.findSome?_eq_some_iff.1 h
  obtain ⟨i, hi, rfl, hrest⟩ := List.range'_eq_append_iff.1 hsplit
  obtain ⟨rfl, hpos, -⟩ := List.range'_eq_cons_iff.1 hrest.symm
  refine ⟨_, by omega, by omega, hk, fun j hj hlt => hbefore j ?_⟩
  rw [List.mem_range'_1]
  omega

/-- The search finds a number, so the exact expansion is not needed. -/
theorem exists_shortestWith (hm : m ≠ 0) : ∃ k s, 1 ≤ k ∧ k ≤ 17 ∧
    shortestWith .up m (digitCount m) k = some s ∧
    (∀ j, 1 ≤ j → j < k → shortestWith .up m (digitCount m) j = none) ∧ shortest .up m = s.strip 1200 := by
  have hshortest : shortest .up m =
      (((List.range' 1 17).findSome? (shortestWith .up m (digitCount m))).getD (exactScaled m)).strip 1200 := by
    rw [shortest, ← inUnits_one]
    rfl
  rw [hshortest]
  cases hfound : (List.range' 1 17).findSome? (shortestWith .up m (digitCount m)) with
  | none =>
    obtain ⟨v, hv, hn⟩ := exists_hasDigits_seventeen hm
    have hnone := List.findSome?_eq_none_iff.1 hfound 17 (by decide)
    exact absurd hn (not_nearestTo_of_shortestWith hm (by decide) (le_refl 17) hnone hv)
  | some s =>
    obtain ⟨k, hk, hk', hs, hfirst⟩ := findSome?_range'_eq_some hfound
    exact ⟨k, s, hk, hk', hs, hfirst, rfl⟩

/-- The shortest digits of a magnitude, where ties go up, are the fewest that read back, and the closest of these. -/
theorem briefest_shortest (hm : m ≠ 0) : Briefest m (shortest .up m).value where
  nearest := nearestTo_shortest .up m
  fewest := by
    obtain ⟨k, s, hk, hk', hs, hfirst, hshortest⟩ := exists_shortestWith hm
    obtain ⟨hdigits, -, hclosest⟩ := closest_of_shortestWith hm hk hk' hs
    rw [hshortest, Scaled.value_strip]
    refine ⟨k, hdigits, fun j hj w hw hn => ?_, hclosest⟩
    by_cases hzero : j = 0
    · subst hzero
      rw [hasDigits_zero_iff.1 hw] at hn
      exact hm (eq_zero_of_nearestTo_zero hn)
    · exact not_nearestTo_of_shortestWith hm (by omega) (by omega) (hfirst j (by omega) hj) hw hn

/-- With fuel for all its digits, a coefficient loses all zeros at its end. -/
theorem Scaled.coefficient_strip {digits fuel : Nat} (hlt : s.coefficient < 10 ^ digits) (hle : digits ≤ fuel)
    (hpos : s.coefficient ≠ 0) : (s.strip fuel).coefficient % 10 ≠ 0 := by
  induction fuel generalizing s digits with
  | zero =>
    obtain rfl : digits = 0 := by omega
    omega
  | succ fuel ih =>
    rw [strip]
    split
    · next h =>
      cases digits with
      | zero => omega
      | succ digits =>
        rw [Nat.pow_succ] at hlt
        have hfewer : s.coefficient / 10 < 10 ^ digits := by omega
        exact ih (s := ⟨s.coefficient / 10, s.exponent + 1⟩) hfewer (by omega) (by dsimp only; omega)
    · omega

/-- The shortest digits do not end in zero. -/
theorem coefficient_shortest (hm : m ≠ 0) : (shortest .up m).coefficient % 10 ≠ 0 := by
  obtain ⟨k, s, hk, hk', hs, -, hshortest⟩ := exists_shortestWith hm
  have haround := around_low hm hk hk'
  have hcoefficient : s.coefficient = lowOf m k ∨ s.coefficient = lowOf m k + 1 := by
    rw [shortestWith_eq] at hs
    rcases reads_of_betterNeighbour hs with ⟨rfl, -⟩ | ⟨rfl, -⟩
    · exact .inl rfl
    · exact .inr rfl
  have hlt : s.coefficient < 10 ^ 18 := by
    have hlow := haround.lt
    have hpow : 10 ^ k ≤ 10 ^ 17 := Nat.pow_le_pow_right (by decide) hk'
    omega
  have hpos : s.coefficient ≠ 0 := by
    have hfull := haround.full
    have hone : 0 < 10 ^ (k - 1) := Nat.pow_pos (by decide)
    omega
  rw [hshortest]
  exact Scaled.coefficient_strip hlt (by decide) hpos

end Neighbours

end FaultInjection.Decimal
