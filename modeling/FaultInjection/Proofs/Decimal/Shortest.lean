import FaultInjection.Decimal.Shortest
import FaultInjection.Proofs.Decimal.Nearest
import Mathlib.Algebra.Order.Field.Power
import Mathlib.Data.Rat.Cast.Order
import Mathlib.Tactic.FieldSimp
import Mathlib.Tactic.Linarith

/-!
# The shortest digits read back

`NearestTo v m` says that `m` is the magnitude nearest to a rational number, however that is written as a
quotient; it grows with the number (`NearestTo.mono`). The shortest digits of a magnitude are nearest to it
again, whichever way ties go: `nearestTo_shortest`. Where the number stands beside a power of ten, its
shortest digits do as well (`pow_le_shortest_iff`), if the power is its own shortest form.
-/

namespace FaultInjection.Decimal

open Binary64

/-! ## Rational numbers -/

/-- A smaller number has no greater nearest magnitude. -/
theorem IsNearest.mono {num den num' den' m m' : Nat} (hd : 0 < den) (hd' : 0 < den')
    (hle : num * den' ≤ num' * den) (h : IsNearest num den m) (h' : IsNearest num' den' m') : m ≤ m' := by
  by_contra hlt
  rw [Nat.not_le] at hlt
  have hscaled : inUnits num * den' ≤ inUnits num' * den := by
    have := Nat.mul_le_mul_right (Nat.pow 2 1074) hle
    simpa only [inUnits, Nat.mul_right_comm] using this
  have hgap := h m' (by omega)
  have hgap' := h' m (by omega)
  have hbetween := h (m' + 1)
  have hu : unitsOf m' * den < unitsOf m * den := Nat.mul_lt_mul_of_pos_right (unitsOf_strictMono hlt) hd
  have hu' : unitsOf m' * den' < unitsOf m * den' := Nat.mul_lt_mul_of_pos_right (unitsOf_strictMono hlt) hd'
  have hnext : unitsOf m' * den < unitsOf (m' + 1) * den :=
    Nat.mul_lt_mul_of_pos_right (unitsOf_lt_succ m') hd
  simp only [gap] at hgap hgap' hbetween
  generalize inUnits num = scaled at *
  generalize inUnits num' = scaled' at *
  -- The first number is not below the middle between the two magnitudes, and the second not above it.
  have hlow : unitsOf m' * den + unitsOf m * den ≤ 2 * scaled := by omega
  have hhigh : 2 * scaled' ≤ unitsOf m' * den' + unitsOf m * den' := by omega
  have hlow' := Nat.mul_le_mul_right den' hlow
  have hhigh' := Nat.mul_le_mul_right den hhigh
  have hmiddle : (unitsOf m' * den' + unitsOf m * den') * den = (unitsOf m' * den + unitsOf m * den) * den' := by
    ring
  have heq : 2 * scaled * den' = (unitsOf m' * den + unitsOf m * den) * den' := by
    rw [hmiddle] at hhigh'
    rw [Nat.mul_assoc] at hhigh' hlow' ⊢
    omega
  have hexact : 2 * scaled = unitsOf m' * den + unitsOf m * den := Nat.eq_of_mul_eq_mul_right hd' heq
  have hexact' : 2 * scaled' = unitsOf m' * den' + unitsOf m * den' := by
    refine Nat.eq_of_mul_eq_mul_right hd ?_
    rw [hmiddle, ← heq]
    rw [Nat.mul_assoc, Nat.mul_assoc] at *
    omega
  -- Both are in the middle, so both magnitudes are even, and one that lies between them is nearer.
  have hup : unitsOf (m' + 1) * den < unitsOf m * den :=
    Nat.mul_lt_mul_of_pos_right (unitsOf_strictMono (by omega)) hd
  omega

/-- `m` is the magnitude nearest to a number that is not negative. -/
def NearestTo (v : ℚ) (m : Nat) : Prop := ∃ num den : Nat, 0 < den ∧ v = num / den ∧ IsNearest num den m

theorem NearestTo.mono {v w : ℚ} {m m' : Nat} (hle : v ≤ w) (h : NearestTo v m) (h' : NearestTo w m') :
    m ≤ m' := by
  obtain ⟨num, den, hd, rfl, hn⟩ := h
  obtain ⟨num', den', hd', rfl, hn'⟩ := h'
  rw [div_le_div_iff₀ (by exact_mod_cast hd) (by exact_mod_cast hd')] at hle
  exact IsNearest.mono hd hd' (by exact_mod_cast hle) hn hn'

theorem NearestTo.unique {v : ℚ} {m m' : Nat} (h : NearestTo v m) (h' : NearestTo v m') : m = m' :=
  Nat.le_antisymm (h.mono le_rfl h') (h'.mono le_rfl h)

theorem nearestTo_div_iff {num den m : Nat} (hd : 0 < den) :
    NearestTo (num / den) m ↔ IsNearest num den m := by
  constructor
  · intro h
    have hnearest : IsNearest num den _ := isNearest_nearestMagnitude hd
    rwa [h.unique ⟨num, den, hd, rfl, hnearest⟩]
  · exact fun h => ⟨num, den, hd, rfl, h⟩

theorem inUnits_eq (num : Nat) : inUnits num = num * inUnits 1 := by
  simp only [inUnits, Nat.one_mul]

theorem inUnits_one : inUnits 1 = Nat.pow 2 1074 := by
  simp only [inUnits, Nat.one_mul]

theorem inUnits_one_pos : 0 < inUnits 1 := by decide +kernel

/-- The number that a magnitude stands for. -/
def magnitudeValue (m : Nat) : ℚ := unitsOf m / inUnits 1

theorem magnitudeValue_strictMono : StrictMono magnitudeValue := by
  intro m m' h
  have hunit : (0 : ℚ) < inUnits 1 := by exact_mod_cast inUnits_one_pos
  rw [magnitudeValue, magnitudeValue, div_lt_div_iff_of_pos_right hunit]
  exact_mod_cast unitsOf_strictMono h

/-- A magnitude is nearest to what it stands for. -/
theorem nearestTo_magnitudeValue (m : Nat) : NearestTo (magnitudeValue m) m := by
  have hunit : 0 < inUnits 1 := inUnits_one_pos
  refine (nearestTo_div_iff hunit).2 fun k hk => .inl ?_
  have hne : unitsOf k ≠ unitsOf m := unitsOf_strictMono.injective.ne hk
  have hprod : unitsOf k * inUnits 1 ≠ unitsOf m * inUnits 1 :=
    fun h => hne (Nat.eq_of_mul_eq_mul_right hunit h)
  rw [gap, gap, inUnits_eq (unitsOf m)]
  generalize unitsOf k * inUnits 1 = other at *
  generalize unitsOf m * inUnits 1 = own at *
  omega

/-! ## Scaled coefficients -/

namespace Scaled

/-- The number that a coefficient and a power of ten stand for. -/
def value (s : Scaled) : ℚ := s.coefficient * 10 ^ s.exponent

theorem ratio_pos (s : Scaled) : 0 < s.ratio.2 := by
  unfold ratio
  split
  · exact Nat.one_pos
  · exact Nat.pow_pos (by decide)

theorem value_eq_ratio (s : Scaled) : s.value = s.ratio.1 / s.ratio.2 := by
  unfold value ratio
  split
  · next e he =>
    have hpow : ((Nat.pow 10 e : Nat) : ℚ) = 10 ^ e := Nat.cast_pow 10 e
    rw [he, Int.ofNat_eq_natCast, zpow_natCast, Nat.cast_mul, hpow, Nat.cast_one, div_one]
  · next e he =>
    rw [he, zpow_negSucc]
    have hpow : ((Nat.pow 10 (e + 1) : Nat) : ℚ) = 10 ^ (e + 1) := Nat.cast_pow 10 (e + 1)
    rw [hpow, div_eq_mul_inv]

theorem roundsTo_iff {s : Scaled} {m : Nat} : s.roundsTo m = true ↔ NearestTo s.value m := by
  rw [roundsTo, beq_iff_eq, value_eq_ratio, nearestTo_div_iff s.ratio_pos, isNearest_iff s.ratio_pos, eq_comm]

/-- Zeros at the end of the coefficient go into the power of ten. -/
theorem value_strip (fuel : Nat) (s : Scaled) : (s.strip fuel).value = s.value := by
  induction fuel generalizing s with
  | zero => rfl
  | succ fuel ih =>
    rw [strip]
    split
    · next h =>
      have hten : s.coefficient = s.coefficient / 10 * 10 := by omega
      rw [ih, value, value, zpow_add_one₀ (by norm_num)]
      rw [hten]
      push_cast
      rw [Nat.mul_div_cancel _ (by decide)]
      ring
    · rfl

end Scaled

/-- A multiple of a power of five is divided by that power of two when its point moves as many places. -/
theorem value_pow_five (u k : Nat) :
    Scaled.value ⟨u * Nat.pow 5 k, -(k : Int)⟩ = u / (Nat.pow 2 k : Nat) := by
  have hfive : ((Nat.pow 5 k : Nat) : ℚ) = 5 ^ k := Nat.cast_pow 5 k
  have htwo : ((Nat.pow 2 k : Nat) : ℚ) = 2 ^ k := Nat.cast_pow 2 k
  have hten : (10 : ℚ) ^ k = 5 ^ k * 2 ^ k := by rw [← mul_pow]; norm_num
  rw [Scaled.value, zpow_neg, zpow_natCast, hten, Nat.cast_mul, hfive, htwo]
  field_simp

theorem value_exactScaled (m : Nat) : (exactScaled m).value = magnitudeValue m := by
  have hplaces : (-1074 : Int) = -((1074 : Nat) : Int) := rfl
  rw [magnitudeValue, inUnits_one, exactScaled, hplaces]
  -- The power is too great to be evaluated on the way.
  generalize 1074 = k
  exact value_pow_five (unitsOf m) k

/-! ## The search -/

section Neighbours

variable {tie : Tie} {num den low : Nat} {e : Int} {s : Scaled} {belowReads aboveReads : Bool}

/-- Of two neighbours, only one that reads back is chosen. -/
theorem reads_of_betterNeighbour (h : betterNeighbour tie num den low e belowReads aboveReads = some s) :
    (s = ⟨low, e⟩ ∧ belowReads = true) ∨ (s = ⟨low + 1, e⟩ ∧ aboveReads = true) := by
  cases belowReads <;> cases aboveReads <;> dsimp only [betterNeighbour] at h <;> grind

/-- Where both read back it is the nearer one, and the upper one of two that are equally near. -/
theorem nearer_of_betterNeighbour (h : betterNeighbour .up num den low e belowReads aboveReads = some s) :
    (s = ⟨low, e⟩ → aboveReads = true → 2 * num < (2 * low + 1) * den) ∧
    (s = ⟨low + 1, e⟩ → belowReads = true → (2 * low + 1) * den ≤ 2 * num) := by
  cases belowReads <;> cases aboveReads <;> dsimp only [betterNeighbour] at h <;> grind

/-- Nothing is chosen only if neither of the two reads back. -/
theorem betterNeighbour_eq_none (h : betterNeighbour tie num den low e belowReads aboveReads = none) :
    belowReads = false ∧ aboveReads = false := by
  cases belowReads <;> cases aboveReads <;> dsimp only [betterNeighbour] at h <;> grind

end Neighbours

theorem chooseNeighbour_roundsTo {tie : Tie} {m num den low : Nat} {e : Int} {s : Scaled}
    (h : chooseNeighbour tie m num den low e = some s) : s.roundsTo m = true := by
  rcases reads_of_betterNeighbour h with ⟨rfl, hreads⟩ | ⟨rfl, hreads⟩
  · exact hreads
  · exact hreads

/-- The shortest digits of a magnitude are nearest to it. -/
theorem nearestTo_shortest (tie : Tie) (m : Nat) : NearestTo (shortest tie m).value m := by
  rw [shortest, Scaled.value_strip]
  cases hfound : (List.range' 1 17).findSome? (shortestWith tie m _) with
  | none =>
    rw [Option.getD_none, value_exactScaled]
    exact nearestTo_magnitudeValue m
  | some s =>
    obtain ⟨count, -, hs⟩ := List.exists_of_findSome?_eq_some hfound
    exact Scaled.roundsTo_iff.1 (chooseNeighbour_roundsTo hs)

/-- A magnitude above zero has a coefficient. -/
theorem coefficient_pos {m : Nat} (hm : m ≠ 0) (tie : Tie) : 0 < (shortest tie m).coefficient := by
  rw [Nat.pos_iff_ne_zero]
  intro hzero
  have hnearest := nearestTo_shortest tie m
  have hvalue : (shortest tie m).value = magnitudeValue 0 := by
    have hunits : unitsOf 0 = 0 := by decide
    rw [Scaled.value, hzero, magnitudeValue, hunits, Nat.cast_zero, zero_mul, zero_div]
  rw [hvalue] at hnearest
  exact hm (hnearest.unique (nearestTo_magnitudeValue 0))

/-! ## Powers of ten -/

/-- A power of ten that is the shortest form of its nearest magnitude parts the shortest forms as it parts
the magnitudes. -/
theorem pow_le_shortest_iff {tie : Tie} {k : Int} {m₀ : Nat} (h₀ : shortest tie m₀ = ⟨1, k⟩)
    (habove : (10 : ℚ) ^ k ≤ magnitudeValue m₀) (hbelow : magnitudeValue (m₀ - 1) < 10 ^ k) (m : Nat) :
    (10 : ℚ) ^ k ≤ (shortest tie m).value ↔ 10 ^ k ≤ magnitudeValue m := by
  have hvalue : (shortest tie m₀).value = 10 ^ k := by
    rw [h₀, Scaled.value]
    simp
  have hnearest : NearestTo (10 ^ k) m₀ := hvalue ▸ nearestTo_shortest tie m₀
  have hshortest : (10 : ℚ) ^ k ≤ (shortest tie m).value ↔ m₀ ≤ m := by
    constructor
    · exact fun hle => hnearest.mono hle (nearestTo_shortest tie m)
    · intro hle
      by_contra hlt
      have hge := (nearestTo_shortest tie m).mono (le_of_not_ge hlt) hnearest
      obtain rfl : m = m₀ := Nat.le_antisymm hge hle
      exact hlt hvalue.ge
  have hmagnitude : (10 : ℚ) ^ k ≤ magnitudeValue m ↔ m₀ ≤ m := by
    constructor
    · intro hle
      by_contra hlt
      have hmono := magnitudeValue_strictMono.monotone (show m ≤ m₀ - 1 by omega)
      exact absurd (hle.trans hmono) (not_le_of_gt hbelow)
    · exact fun hle => habove.trans (magnitudeValue_strictMono.monotone hle)
  rw [hshortest, hmagnitude]

end FaultInjection.Decimal
