import FaultInjection.Duration
import FaultInjection.Proofs.Decimal.Digits
import Mathlib.Algebra.Order.Floor.Semifield
import Mathlib.Data.Rat.Floor
import Mathlib.Tactic.Positivity

/-!
# What a component of a duration is worth

A component adds its whole part in full and the first eighteen digits of its fraction rounded down
(`contribution`). That is the exact amount rounded down, or at most one nanosecond less if there are more
digits: `exactContribution`. No step of the calculation leaves a hundred and twenty-eight bits before
the result does (`stepwise?_eq`), though a power and a product are made without a check.
-/

namespace FaultInjection

open Decimal

namespace Duration

variable {whole fraction unit : List Char} {u : Nat}

/-- A unit as it is written, and its nanoseconds. -/
inductive UnitText : List Char → Nat → Prop where
  | nanosecond : UnitText ['n', 's'] 1
  | microsecond : UnitText ['u', 's'] (10 ^ 3)
  | microSign : UnitText ['\u00B5', 's'] (10 ^ 3)
  | millisecond : UnitText ['m', 's'] (10 ^ 6)
  | second : UnitText ['s'] (10 ^ 9)
  | minute : UnitText ['m'] (60 * 10 ^ 9)
  | hour : UnitText ['h'] (3600 * 10 ^ 9)

theorem UnitText.pos (h : UnitText unit u) : 1 ≤ u := by cases h <;> decide

theorem UnitText.le (h : UnitText unit u) : u ≤ 3600 * 10 ^ 9 := by cases h <;> decide

theorem nanosPerUnit?_eq_some_iff : nanosPerUnit? unit = some u ↔ UnitText unit u := by
  constructor
  · intro h
    obtain ⟨l₁, l₂, hsplit, -⟩ := List.lookup_eq_some_iff.1 h
    have hmem : (unit, u) ∈ units := by rw [hsplit]; simp
    simp only [units, List.mem_cons, List.not_mem_nil, or_false, Prod.mk.injEq] at hmem
    rcases hmem with ⟨rfl, rfl⟩ | ⟨rfl, rfl⟩ | ⟨rfl, rfl⟩ | ⟨rfl, rfl⟩ | ⟨rfl, rfl⟩ | ⟨rfl, rfl⟩ | ⟨rfl, rfl⟩
    · exact .nanosecond
    · exact .microsecond
    · exact .microSign
    · exact .millisecond
    · exact .second
    · exact .minute
    · exact .hour
  · intro h
    cases h <;> decide

/-! ## Rounding -/

/-- The number with these digits before and behind its point. -/
def amount (whole fraction : List Char) : ℚ :=
  digitsValue whole + digitsValue fraction / 10 ^ fraction.length

/-- What a component adds to a duration. -/
def contribution (whole fraction : List Char) (unit : Nat) : Nat :=
  digitsValue whole * unit + digitsValue (fraction.take 18) * unit / 10 ^ (fraction.take 18).length

/-- Rounding down to nanoseconds is a division of natural numbers. -/
theorem floor_amount (whole fraction : List Char) (u : Nat) : ⌊amount whole fraction * u⌋₊ =
    digitsValue whole * u + digitsValue fraction * u / 10 ^ fraction.length := by
  have hsum : amount whole fraction * u = ((digitsValue whole * u : Nat) : ℚ) +
      ((digitsValue fraction * u : Nat) : ℚ) / ((10 ^ fraction.length : Nat) : ℚ) := by
    rw [amount]
    push_cast
    ring
  have hpart : (0 : ℚ) ≤ ((digitsValue fraction * u : Nat) : ℚ) / ((10 ^ fraction.length : Nat) : ℚ) := by
    positivity
  rw [hsum, add_comm, Nat.floor_add_natCast hpart, Nat.floor_div_eq_div, Nat.add_comm]

theorem contribution_nil (whole : List Char) (u : Nat) : contribution whole [] u = digitsValue whole * u := by
  have hnil : digitsValue [] = 0 := rfl
  rw [contribution, List.take_nil, hnil, Nat.zero_mul, Nat.zero_div, Nat.add_zero]

theorem contribution_eq_floor (h : fraction.length ≤ 18) (whole : List Char) (u : Nat) :
    contribution whole fraction u = ⌊amount whole fraction * u⌋₊ := by
  rw [contribution, List.take_of_length_le h, floor_amount]

theorem contribution_eq_add_floor (whole fraction : List Char) (u : Nat) : contribution whole fraction u =
    digitsValue whole * u + ⌊amount [] (fraction.take 18) * u⌋₊ := by
  have hnil : digitsValue [] = 0 := rfl
  rw [floor_amount, hnil, Nat.zero_mul, Nat.zero_add, contribution]

/-- Digits that are dropped are worth less than a nanosecond. -/
theorem floor_of_dropped {k m a b : Nat} (hb : b < 10 ^ m) (hu : u ≤ 10 ^ k) :
    a * u / 10 ^ k ≤ (a * 10 ^ m + b) * u / 10 ^ (k + m) ∧
      (a * 10 ^ m + b) * u / 10 ^ (k + m) ≤ a * u / 10 ^ k + 1 := by
  have hpos : 0 < 10 ^ m := by positivity
  have hfirst : (a * 10 ^ m + b) * u / 10 ^ (k + m) = (a * u + b * u / 10 ^ m) / 10 ^ k := by
    have hmul : (a * 10 ^ m + b) * u = b * u + 10 ^ m * (a * u) := by ring
    rw [Nat.pow_add, Nat.mul_comm (10 ^ k), ← Nat.div_div_eq_div_mul, hmul, Nat.add_mul_div_left _ _ hpos,
      Nat.add_comm]
  have hrest : b * u / 10 ^ m ≤ 10 ^ k := by
    have hle : b * u / 10 ^ m ≤ u :=
      Nat.div_le_of_le_mul (Nat.mul_le_mul_right u (Nat.le_of_lt hb))
    exact hle.trans hu
  rw [hfirst]
  constructor
  · exact Nat.div_le_div_right (Nat.le_add_right _ _)
  · calc (a * u + b * u / 10 ^ m) / 10 ^ k
        ≤ (a * u + 10 ^ k) / 10 ^ k := Nat.div_le_div_right (Nat.add_le_add_left hrest _)
      _ = a * u / 10 ^ k + 1 := Nat.add_div_right _ (by positivity)

theorem contribution_bounds (hf : AllDigits fraction) (hu : UnitText unit u) (whole : List Char) :
    contribution whole fraction u ≤ ⌊amount whole fraction * u⌋₊ ∧
      ⌊amount whole fraction * u⌋₊ ≤ contribution whole fraction u + 1 := by
  rcases Nat.le_total fraction.length 18 with hshort | hlong
  · rw [contribution_eq_floor hshort]
    exact ⟨Nat.le_refl _, Nat.le_succ _⟩
  · have hkept : (fraction.take 18).length = 18 := List.length_take_of_le hlong
    have hlength : fraction.length = 18 + (fraction.drop 18).length := by
      rw [List.length_drop]
      omega
    have hvalue : digitsValue fraction =
        digitsValue (fraction.take 18) * 10 ^ (fraction.drop 18).length + digitsValue (fraction.drop 18) := by
      rw [← digitsValue_append, List.take_append_drop]
    have hunit : u ≤ 10 ^ 18 := hu.le.trans (by decide)
    obtain ⟨hlower, hupper⟩ := floor_of_dropped (a := digitsValue (fraction.take 18))
      (digitsValue_lt (hf.drop 18)) hunit
    rw [floor_amount, contribution, hkept, hlength, hvalue]
    omega

/-! ## The numbers in between -/

theorem kept_lt (hf : AllDigits fraction) : digitsValue (fraction.take 18) < 10 ^ 18 := by
  have hlength : (fraction.take 18).length ≤ 18 := List.length_take_le 18 fraction
  exact (digitsValue_lt (hf.take 18)).trans_le (Nat.pow_le_pow_right (by decide) hlength)

/-- The product that is made without a check needs none. -/
theorem kept_mul_lt (hf : AllDigits fraction) (hu : UnitText unit u) :
    digitsValue (fraction.take 18) * u < wideBound :=
  calc digitsValue (fraction.take 18) * u
      ≤ 10 ^ 18 * (3600 * 10 ^ 9) := Nat.mul_le_mul (kept_lt hf).le hu.le
    _ < wideBound := by decide

theorem scale_lt (fraction : List Char) : 10 ^ (fraction.take 18).length < wideBound := by
  have hlength : (fraction.take 18).length ≤ 18 := List.length_take_le 18 fraction
  exact (Nat.pow_le_pow_right (by decide) hlength).trans_lt (show 10 ^ 18 < wideBound by decide)

theorem wide?_of_lt {n : Nat} (h : n < wideBound) : wide? n = some n := if_pos h

theorem wide?_of_not_lt {n : Nat} (h : ¬ n < wideBound) : wide? n = none := if_neg h

/-- No number on the way is too great unless the result is. -/
theorem stepwise?_eq (hf : AllDigits fraction) (hu : UnitText unit u) (whole : List Char) :
    stepwise? whole fraction u = wide? (contribution whole fraction u) := by
  have hwhole : digitsValue whole ≤ digitsValue whole * u := Nat.le_mul_of_pos_right _ hu.pos
  have hproduct : digitsValue whole * u ≤ contribution whole fraction u := Nat.le_add_right _ _
  have hkept : digitsValue (fraction.take 18) < wideBound := (kept_lt hf).trans (by decide)
  unfold stepwise?
  by_cases hfits : digitsValue whole * u < wideBound
  · simp only [wide?_of_lt (hwhole.trans_lt hfits), wide?_of_lt hfits, wide?_of_lt hkept, Option.bind_eq_bind,
      Option.bind_some]
    split
    · next hnone =>
      -- Without a fraction nothing is added to the product.
      obtain rfl := List.isEmpty_iff.1 hnone
      rw [contribution_nil, wide?_of_lt hfits]
    · rw [Nat.pow_eq, Nat.mod_eq_of_lt (kept_mul_lt hf hu), Nat.mod_eq_of_lt (scale_lt fraction)]
      rfl
  · have hnone : wide? (contribution whole fraction u) = none :=
      wide?_of_not_lt fun hlt => hfits (hproduct.trans_lt hlt)
    rw [hnone]
    by_cases hlt : digitsValue whole < wideBound
    · rw [wide?_of_lt hlt]
      simp only [Option.bind_eq_bind, Option.bind_some]
      rw [wide?_of_not_lt hfits]
      rfl
    · rw [wide?_of_not_lt hlt]
      rfl

/-- The arithmetic of a component with these digits and this unit: what it adds, by how much that is less
than the exact amount, and that no number on the way is too great unless the result is. -/
structure ExactContribution (whole fraction : List Char) (u : Nat) : Prop where
  formula : contribution whole fraction u = digitsValue whole * u + ⌊amount [] (fraction.take 18) * u⌋₊
  rounded : fraction.length ≤ 18 → contribution whole fraction u = ⌊amount whole fraction * u⌋₊
  below : contribution whole fraction u ≤ ⌊amount whole fraction * u⌋₊
  above : ⌊amount whole fraction * u⌋₊ ≤ contribution whole fraction u + 1
  unchecked : digitsValue (fraction.take 18) * u < wideBound ∧ 10 ^ (fraction.take 18).length < wideBound
  stepwise : stepwise? whole fraction u = wide? (contribution whole fraction u)

theorem exactContribution (hf : AllDigits fraction) (hu : UnitText unit u) (whole : List Char) :
    ExactContribution whole fraction u where
  formula := contribution_eq_add_floor whole fraction u
  rounded := fun h => contribution_eq_floor h whole u
  below := (contribution_bounds hf hu whole).1
  above := (contribution_bounds hf hu whole).2
  unchecked := ⟨kept_mul_lt hf hu, scale_lt fraction⟩
  stepwise := stepwise?_eq hf hu whole

end Duration

end FaultInjection
