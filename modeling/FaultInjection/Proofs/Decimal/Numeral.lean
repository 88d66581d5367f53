import FaultInjection.Decimal.Numeral
import FaultInjection.Proofs.Decimal.Nearest
import Mathlib.Data.List.TakeWhile

/-!
# Reading decimal numbers

`PointedDigits` is the form of an unsigned decimal number, and `Rounds` relates its digits to the
double nearest to it. `unsigned?_eq_some_nil_iff` and `toBinary64?_eq_some_iff` say that reading and
rounding follow these two, whatever the length of the number.
-/

namespace FaultInjection.Decimal

/-- A row of ASCII digits, which may be empty. -/
def AllDigits (cs : List Char) : Prop := ∀ c ∈ cs, isDigit c = true

/-- Digits with at most one point among them: the text, its digits, and how many follow the point. -/
inductive PointedDigits : List Char → List Char → Nat → Prop where
  | whole {ds : List Char} : AllDigits ds → ds ≠ [] → PointedDigits ds ds 0
  | pointed {whole fraction : List Char} : AllDigits whole → AllDigits fraction →
      whole ++ fraction ≠ [] →
      PointedDigits (whole ++ '.' :: fraction) (whole ++ fraction) fraction.length

/-- `x` has this sign and is nearest to the number with these digits, `places` behind the point. -/
structure Rounds (negative : Bool) (digits : List Char) (places : Nat) (x : Binary64) : Prop where
  negative_eq : x.negative = negative
  nearest : IsNearest (digitsValue digits) (10 ^ places) x.magnitude

/-! ## Reading -/

theorem bounds_of_isDigit {c : Char} (h : isDigit c = true) : 0x30 ≤ c.toNat ∧ c.toNat ≤ 0x39 := by
  simp only [isDigit, Bool.and_eq_true, decide_eq_true_eq, Char.le_def, UInt32.le_iff_toNat_le] at h
  exact h

theorem allDigits_takeWhile (cs : List Char) : AllDigits (cs.takeWhile isDigit) :=
  fun _ hc => List.mem_takeWhile_imp hc

theorem allDigits_iff {cs : List Char} : AllDigits cs ↔ cs.all isDigit = true := by
  simp [AllDigits]

theorem PointedDigits.ne_nil {cs ds : List Char} {places : Nat} (h : PointedDigits cs ds places) :
    cs ≠ [] := by
  cases h with
  | whole _ hn => exact hn
  | pointed => simp

theorem PointedDigits.digit_or_point {cs ds : List Char} {places : Nat}
    (h : PointedDigits cs ds places) : ∀ c ∈ cs, isDigit c = true ∨ c = '.' := by
  intro c hc
  cases h with
  | whole hd _ => exact .inl (hd c hc)
  | pointed hw hf _ =>
    rcases List.mem_append.1 hc with hc | hc
    · exact .inl (hw c hc)
    · exact (List.mem_cons.1 hc).elim .inr fun hc => .inl (hf c hc)

theorem PointedDigits.head?_ne {cs ds : List Char} {places : Nat} (h : PointedDigits cs ds places)
    {c : Char} (hd : isDigit c = false) (hp : c ≠ '.') : cs.head? ≠ some c := by
  intro hc
  rcases h.digit_or_point c (List.mem_of_mem_head? hc) with hc | hc
  · simp [hd] at hc
  · exact hp hc

/-- The leading digits end where another character follows them. -/
theorem spanDigits_append {ds : List Char} (h : AllDigits ds) {c : Char} (hc : isDigit c = false)
    (cs : List Char) : spanDigits (ds ++ c :: cs) = (ds, c :: cs) := by
  rw [spanDigits, List.takeWhile_append_of_pos h, List.dropWhile_append_of_pos h,
    List.takeWhile_cons_of_neg (by simp [hc]), List.dropWhile_cons_of_neg (by simp [hc]),
    List.append_nil]

theorem natural?_eq_some_iff {cs : List Char} {n : Nat} :
    natural? cs = some n ↔ AllDigits cs ∧ cs ≠ [] ∧ digitsValue cs = n := by
  rw [natural?, allDigits_iff]
  split
  · next h => simp [h]
  · next h =>
    simp only [reduceCtorEq, false_iff, not_and]
    exact fun hd hn => absurd ⟨hn, hd⟩ h

/-- What `unsigned?` reads where a point follows the leading digits. -/
theorem unsigned?_pointed {negative : Bool} {whole cs : List Char} (hw : AllDigits whole) :
    Numeral.unsigned? negative (whole ++ '.' :: cs) =
      if whole.isEmpty && (cs.takeWhile isDigit).isEmpty then none
      else some (⟨negative, digitsValue (whole ++ cs.takeWhile isDigit),
        -((cs.takeWhile isDigit).length : Int)⟩, cs.dropWhile isDigit) := by
  rw [Numeral.unsigned?, spanDigits_append hw (by decide)]
  rfl

/-- What `unsigned?` reads where no point follows the leading digits. -/
theorem unsigned?_whole {negative : Bool} {cs : List Char}
    (h : (cs.dropWhile isDigit).head? ≠ some '.') :
    Numeral.unsigned? negative cs =
      if (cs.takeWhile isDigit).isEmpty then none
      else some (⟨negative, digitsValue (cs.takeWhile isDigit), 0⟩, cs.dropWhile isDigit) := by
  rw [Numeral.unsigned?, spanDigits]
  generalize cs.takeWhile isDigit = whole
  generalize cs.dropWhile isDigit = rest at *
  match rest, h with
  | [], _ => simp
  | c :: rest, h =>
    have hc : c ≠ '.' := by simpa using h
    simp [hc]

/-- An unsigned numeral is read to the end exactly if the text has the form of one. -/
theorem unsigned?_eq_some_nil_iff {negative : Bool} {cs : List Char} {x : Numeral} :
    Numeral.unsigned? negative cs = some (x, []) ↔
      ∃ ds places, PointedDigits cs ds places ∧ x = ⟨negative, digitsValue ds, -(places : Int)⟩ := by
  constructor
  · intro h
    have hjoin : cs.takeWhile isDigit ++ cs.dropWhile isDigit = cs := List.takeWhile_append_dropWhile
    have hwhole := allDigits_takeWhile cs
    by_cases hpoint : (cs.dropWhile isDigit).head? = some '.'
    · obtain ⟨fraction, hrest⟩ := List.head?_eq_some_iff.1 hpoint
      rw [hrest] at hjoin
      have hsplit : fraction.takeWhile isDigit ++ fraction.dropWhile isDigit = fraction :=
        List.takeWhile_append_dropWhile
      have hfrac := allDigits_takeWhile fraction
      rw [← hjoin, unsigned?_pointed hwhole] at h
      obtain ⟨hne, h⟩ := Option.ite_none_left_eq_some.1 h
      obtain ⟨rfl, hend⟩ := Prod.mk.inj (Option.some.inj h)
      rw [hend, List.append_nil] at hsplit
      rw [hsplit] at hfrac hne ⊢
      have hshape := PointedDigits.pointed hwhole hfrac (by simpa using hne)
      rw [hjoin] at hshape
      exact ⟨_, _, hshape, rfl⟩
    · rw [unsigned?_whole hpoint] at h
      obtain ⟨hne, h⟩ := Option.ite_none_left_eq_some.1 h
      obtain ⟨rfl, hend⟩ := Prod.mk.inj (Option.some.inj h)
      rw [hend, List.append_nil] at hjoin
      rw [hjoin] at hwhole hne ⊢
      exact ⟨_, _, .whole hwhole (by simpa using hne), rfl⟩
  · rintro ⟨ds, places, h, rfl⟩
    cases h with
    | whole hd hn =>
      have hrest : cs.dropWhile isDigit = [] := List.dropWhile_eq_nil_iff.2 hd
      have htake : cs.takeWhile isDigit = cs := List.takeWhile_eq_self_iff.2 hd
      rw [unsigned?_whole (by simp [hrest]), htake, hrest, if_neg (by simpa using hn)]
      rfl
    | @pointed whole fraction hw hf hn =>
      have hrest : fraction.dropWhile isDigit = [] := List.dropWhile_eq_nil_iff.2 hf
      have htake : fraction.takeWhile isDigit = fraction := List.takeWhile_eq_self_iff.2 hf
      rw [unsigned?_pointed hw, htake, hrest, if_neg (by simpa using hn)]

/-! ## Rounding -/

/-- What is less than half a unit rounds to zero. -/
theorem nearestMagnitude_eq_zero {num den : Nat} (h : 2 * inUnits num < den) :
    nearestMagnitude num den = 0 := by
  have hq : inUnits num / den = 0 := Nat.div_eq_of_lt (by omega)
  have hshift : shiftOf (inUnits num) den = 0 := by
    rw [shiftOf, hq]
    decide
  rw [nearestMagnitude_eq, hshift, magnitudeOf, Nat.zero_mul, Nat.zero_add, Nat.pow_zero, Nat.mul_one,
    roundHalfEven, if_pos (.inl (by rw [Nat.mod_eq_of_lt (by omega)]; exact h)), hq]

theorem nearest?_eq_some_iff {negative : Bool} {num den : Nat} {x : Binary64} :
    Binary64.nearest? negative num den = some x ↔
      x.negative = negative ∧ x.magnitude = nearestMagnitude num den := by
  obtain ⟨xn, xm, hx⟩ := x
  rw [Binary64.nearest?]
  split
  · simp only [Option.some.injEq, Binary64.mk.injEq]
    exact ⟨fun h => ⟨h.1.symm, h.2.symm⟩, fun h => ⟨h.1.symm, h.2.symm⟩⟩
  · next hover =>
    simp only [reduceCtorEq, false_iff, not_and]
    rintro - rfl
    exact hover hx

theorem signedZero_eq_iff {negative : Bool} {x : Binary64} :
    Binary64.signedZero negative = x ↔ x.negative = negative ∧ x.magnitude = 0 := by
  obtain ⟨xn, xm, hx⟩ := x
  simp only [Binary64.signedZero, Binary64.mk.injEq]
  exact ⟨fun h => ⟨h.1.symm, h.2.symm⟩, fun h => ⟨h.1.symm, h.2.symm⟩⟩

/-- So many places behind the point leave less than half of a small power of two. -/
theorem two_mul_lt_pow_ten {c a k : Nat} (h : Nat.log2 c + a + 2 ≤ 3 * k) :
    2 * (c * Nat.pow 2 a) < 10 ^ k := by
  have hc : c < 2 ^ (Nat.log2 c + 1) := Nat.lt_log2_self
  calc 2 * (c * 2 ^ a) = c * 2 ^ (a + 1) := by rw [Nat.pow_succ 2 a]; ring
    _ < 2 ^ (Nat.log2 c + 1) * 2 ^ (a + 1) := Nat.mul_lt_mul_of_pos_right hc (Nat.two_pow_pos _)
    _ = 2 ^ (Nat.log2 c + 1 + (a + 1)) := (Nat.pow_add 2 _ _).symm
    _ ≤ 2 ^ (3 * k) := Nat.pow_le_pow_right (by decide) (by omega)
    _ = 8 ^ k := Nat.pow_mul 2 3 k
    _ ≤ 10 ^ k := Nat.pow_le_pow_left (by decide) k

/-- Rounding a numeral without a power of ten gives the nearest double, if it is finite. -/
theorem toBinary64?_eq_some_iff {negative : Bool} {c k : Nat} {x : Binary64} :
    Numeral.toBinary64? ⟨negative, c, -(k : Int)⟩ = some x ↔
      x.negative = negative ∧ IsNearest c (10 ^ k) x.magnitude := by
  rw [isNearest_iff (Nat.pow_pos (by decide)), Numeral.toBinary64?]
  dsimp only
  split
  · next hc =>
    have hzero : 2 * inUnits c < 10 ^ k := by
      rw [hc, inUnits_zero]
      exact Nat.pow_pos (by decide)
    rw [nearestMagnitude_eq_zero hzero, Option.some.injEq, signedZero_eq_iff]
  · rw [if_neg (by omega)]
    split
    · next hsmall =>
      rw [nearestMagnitude_eq_zero (two_mul_lt_pow_ten (by omega)), Option.some.injEq, signedZero_eq_iff]
    · cases k with
      | zero =>
        have h1 : c * Nat.pow 10 0 = c := Nat.mul_one c
        refine nearest?_eq_some_iff.trans ?_
        rw [h1]
      | succ k => exact nearest?_eq_some_iff

end FaultInjection.Decimal
