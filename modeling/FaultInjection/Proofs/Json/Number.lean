import FaultInjection.Json.Number
import FaultInjection.Proofs.Decimal.Digits
import FaultInjection.Proofs.Decimal.Shortest

/-!
# Integers are finite as doubles

A number is readable if the double that it is taken for is finite. Every integer of sixty-four bits is: all of its
digits are taken (`takeDigits_of_lt`), and the product with the power of ten that is one is exact (`times?_one`).
-/

namespace FaultInjection.Json.Number

open Decimal Binary64

variable {n : Number}

/-! ## Significands -/

theorem le_foldl_digits (significand : Nat) (ds : List Char) :
    significand ≤ ds.foldl (fun n c => 10 * n + digitValue c) significand := by
  rw [foldl_digits]
  exact (Nat.le_mul_of_pos_right significand (Nat.pow_pos (by decide))).trans (Nat.le_add_right _ _)

/-- Digits that fit are all taken. -/
theorem takeDigits_of_lt {significand : Nat} {ds : List Char}
    (h : ds.foldl (fun n c => 10 * n + digitValue c) significand < wordBound) :
    takeDigits significand ds = (ds.foldl (fun n c => 10 * n + digitValue c) significand, []) := by
  induction ds generalizing significand with
  | nil => rfl
  | cons c ds ih =>
    rw [List.foldl_cons] at h
    rw [takeDigits, List.foldl_cons, if_pos ((le_foldl_digits _ ds).trans_lt h), ih h]

/-- The number is written as an integer whose absolute value has at most sixty-four bits. -/
structure IsWhole (n : Number) : Prop where
  fraction : n.fraction = []
  power : n.power = none
  small : digitsValue n.whole < wordBound

theorem isWhole_of_integer? {k : Int} (h : n.integer? = some k) : n.IsWhole := by
  unfold integer? at h
  split at h
  · next hparts =>
    rw [Bool.and_eq_true, List.isEmpty_iff, Option.isNone_iff_eq_none] at hparts
    refine ⟨hparts.1, hparts.2, ?_⟩
    dsimp only at h
    split at h
    · split at h
      · next hle => exact hle.2.trans_lt (by decide)
      · cases h
    · split at h
      · next hlt => exact hlt
      · cases h
  · cases h

theorem IsWhole.scaled_eq (h : n.IsWhole) : n.scaled = (digitsValue n.whole, 0) := by
  have htaken : takeDigits 0 n.whole = (digitsValue n.whole, []) := takeDigits_of_lt h.small
  rw [scaled, htaken, h.fraction, h.power]
  rfl

/-! ## Rounding -/

/-- The number one. -/
def one : Binary64 := ⟨false, 0x3FF0000000000000, by decide⟩

theorem powerOfTen_zero : powerOfTen 0 = one := by decide +kernel

/-- The product with one is exact. -/
theorem times?_one (x : Binary64) : times? x one = some x := by
  have hunits : one.units = inUnits 1 := by decide +kernel
  have hpow : Nat.pow 2 2148 = inUnits 1 * inUnits 1 := by decide +kernel
  have hunit := inUnits_one_pos
  rw [times?, nearest?_eq_some_iff, hunits, hpow]
  refine ⟨rfl, (isNearest_iff (Nat.mul_pos hunit hunit)).1 ?_⟩
  have hvalue : ((x.units * inUnits 1 : Nat) : ℚ) / (inUnits 1 * inUnits 1 : Nat) = magnitudeValue x.magnitude := by
    have hne : (inUnits 1 : ℚ) ≠ 0 := by exact_mod_cast hunit.ne'
    rw [Nat.cast_mul, Nat.cast_mul, mul_div_mul_right _ _ hne, magnitudeValue, units]
  exact (nearestTo_div_iff (Nat.mul_pos hunit hunit)).1 (hvalue ▸ nearestTo_magnitudeValue x.magnitude)

theorem exists_nearest? (negative : Bool) {significand : Nat} (h : significand < wordBound) :
    ∃ x, nearest? negative significand 1 = some x := by
  have hle : nearestMagnitude significand 1 ≤ nearestMagnitude wordBound 1 :=
    IsNearest.mono (by decide) (by decide) (by omega) (isNearest_nearestMagnitude (by decide))
      (isNearest_nearestMagnitude (by decide))
  have hfinite : nearestMagnitude wordBound 1 < infinityMagnitude := by decide +kernel
  exact ⟨⟨negative, _, hle.trans_lt hfinite⟩, nearest?_eq_some_iff.2 ⟨rfl, rfl⟩⟩

/-- An integer of sixty-four bits is finite as a double. -/
theorem IsWhole.isSome_double? (h : n.IsWhole) : n.double?.isSome = true := by
  obtain ⟨x, hx⟩ := exists_nearest? n.negative h.small
  have hscale : scaleBy? x (.ofNat 0) = some x := by
    rw [scaleBy?, if_pos (Nat.zero_le _), powerOfTen_zero, times?_one]
  rw [double?, h.scaled_eq]
  dsimp only
  rw [hx, Option.bind_some]
  exact Option.isSome_iff_exists.2 ⟨x, hscale⟩

end FaultInjection.Json.Number
