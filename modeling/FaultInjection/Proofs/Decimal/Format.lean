import FaultInjection.Decimal.Format
import FaultInjection.Proofs.Decimal.Digits
import FaultInjection.Proofs.Decimal.Shortest

/-!
# What a written double says

A written double is its sign, digits with a point or with a power of ten, and nothing else; the decimal
number that stands there has the magnitude of the double as its nearest one. `write_of_plain` and
`write_of_power` say this for every format that shows a point, and `display_plain_iff` says between which
bounds a displayed double has a point.
-/

namespace FaultInjection.Decimal

/-! ## The leading digit -/

/-- The power of ten at which the leading digit stands. -/
def Scaled.leadingPower (s : Scaled) : Int := s.exponent + (naturalDigits s.coefficient).length - 1

theorem length_naturalDigits_pos (n : Nat) : 1 ≤ (naturalDigits n).length :=
  List.length_pos_of_ne_nil (naturalDigits_ne_nil n)

theorem Scaled.le_value {s : Scaled} (hs : s.coefficient ≠ 0) : (10 : ℚ) ^ s.leadingPower ≤ s.value := by
  have hlength := length_naturalDigits_pos s.coefficient
  have hpower : s.leadingPower = ((naturalDigits s.coefficient).length - 1 : Nat) + s.exponent := by
    rw [leadingPower]
    omega
  rw [hpower, value, zpow_add₀ (by norm_num), zpow_natCast]
  gcongr
  exact_mod_cast le_naturalDigits hs

theorem Scaled.value_lt (s : Scaled) : s.value < (10 : ℚ) ^ (s.leadingPower + 1) := by
  have hpower : s.leadingPower + 1 = (naturalDigits s.coefficient).length + s.exponent := by
    rw [leadingPower]
    omega
  rw [hpower, value, zpow_add₀ (by norm_num), zpow_natCast]
  gcongr
  exact_mod_cast naturalDigits_lt s.coefficient

/-- The leading digit tells between which powers of ten a number lies. -/
theorem Scaled.le_leadingPower_iff {s : Scaled} (hs : s.coefficient ≠ 0) (k : Int) :
    k ≤ s.leadingPower ↔ (10 : ℚ) ^ k ≤ s.value := by
  constructor
  · exact fun hle => (zpow_le_zpow_right₀ (by norm_num) hle).trans (le_value hs)
  · intro hle
    have hlt := (zpow_lt_zpow_iff_right₀ (by norm_num)).1 (hle.trans_lt s.value_lt)
    omega

/-! ## Layouts -/

/-- The number with these digits before and behind its point. -/
def pointedValue (whole fraction : List Char) : ℚ := digitsValue (whole ++ fraction) / 10 ^ fraction.length

theorem nearestTo_pointedValue_iff {whole fraction : List Char} {m : Nat} :
    NearestTo (pointedValue whole fraction) m ↔
      IsNearest (digitsValue (whole ++ fraction)) (10 ^ fraction.length) m := by
  rw [← nearestTo_div_iff (Nat.pow_pos (by decide)), pointedValue]
  push_cast
  rfl

/-- Digits before and behind a point, none of them missing and no idle zero in front. -/
structure Pointed (whole fraction : List Char) : Prop where
  whole_digits : AllDigits whole
  whole_ne_nil : whole ≠ []
  fraction_digits : AllDigits fraction
  fraction_ne_nil : fraction ≠ []
  no_idle_zero : whole = ['0'] ∨ whole.head? ≠ some '0'

theorem pointed_zero {fraction : List Char} (h : AllDigits fraction) (hn : fraction ≠ []) :
    Pointed ['0'] fraction :=
  ⟨fun _ hc => (List.mem_singleton.1 hc) ▸ (by decide), by simp, h, hn, .inl rfl⟩

/-- Digits that begin with no zero. -/
structure Leading (ds : List Char) : Prop where
  digits : AllDigits ds
  ne_nil : ds ≠ []
  head : ds.head? ≠ some '0'

theorem leading_naturalDigits {n : Nat} (hn : n ≠ 0) : Leading (naturalDigits n) :=
  ⟨allDigits_naturalDigits n, naturalDigits_ne_nil n, head?_naturalDigits hn⟩

theorem Leading.append_zeros {ds : List Char} (h : Leading ds) (n : Nat) :
    Leading (ds ++ List.replicate n '0') where
  digits := h.digits.append (allDigits_zeros n)
  ne_nil := by simp [h.ne_nil]
  head := by
    rw [List.head?_append, Option.or_of_isSome (by simpa using h.ne_nil)]
    exact h.head

theorem Leading.take {ds : List Char} (h : Leading ds) {n : Nat} (hn : n ≠ 0) : Leading (ds.take n) where
  digits := h.digits.take n
  ne_nil := by simp [h.ne_nil, hn]
  head := by
    rw [List.head?_take, if_neg hn]
    exact h.head

theorem Leading.pointed {whole fraction : List Char} (h : Leading whole) (hf : AllDigits fraction)
    (hn : fraction ≠ []) : Pointed whole fraction :=
  ⟨h.digits, h.ne_nil, hf, hn, .inr h.head⟩

/-- A plain layout has its point among the digits or before them, or fills up with zeros. -/
theorem layPlain_cases {ds : List Char} (h : Leading ds) (pointZero : Bool) (whole : Int) :
    (∃ ws fs, Pointed ws fs ∧ fs.getLast? = ds.getLast? ∧
      Format.layPlain pointZero ds whole = ws ++ '.' :: fs ∧
      pointedValue ws fs = digitsValue ds * 10 ^ (whole - ds.length)) ∨
    ∃ n : Nat, whole - ds.length = n ∧ Format.layPlain pointZero ds whole =
      ds ++ List.replicate n '0' ++ (if pointZero then ['.', '0'] else []) := by
  cases whole with
  | ofNat w =>
    by_cases hw : w = 0
    · refine .inl ⟨['0'], ds, pointed_zero h.digits h.ne_nil, rfl, by simp [Format.layPlain, hw], ?_⟩
      have hvalue : digitsValue (['0'] ++ ds) = digitsValue ds := digitsValue_zeros_append 1 ds
      have hexp : Int.ofNat w - ds.length = -(ds.length : Int) := by simp [hw]
      rw [pointedValue, hvalue, hexp, zpow_neg, zpow_natCast, div_eq_mul_inv]
    · by_cases hlt : w < ds.length
      · refine .inl ⟨ds.take w, ds.drop w, (h.take hw).pointed (h.digits.drop w) (by simpa using hlt), ?_,
          by simp [Format.layPlain, hw, hlt], ?_⟩
        · rw [List.getLast?_drop, if_neg (by omega)]
        · have hexp : Int.ofNat w - ds.length = -((ds.drop w).length : Int) := by
            rw [List.length_drop, Int.ofNat_eq_natCast]
            omega
          rw [pointedValue, List.take_append_drop, hexp, zpow_neg, zpow_natCast, div_eq_mul_inv]
      · refine .inr ⟨w - ds.length, ?_, by simp [Format.layPlain, hw, hlt]⟩
        rw [Int.ofNat_eq_natCast]
        omega
  | negSucc w =>
    refine .inl ⟨['0'], List.replicate (w + 1) '0' ++ ds,
      pointed_zero ((allDigits_zeros _).append h.digits) (by simp), ?_, by simp [Format.layPlain], ?_⟩
    · rw [List.getLast?_append, Option.or_of_isSome (by simpa using h.ne_nil)]
    · have hvalue : digitsValue (['0'] ++ (List.replicate (w + 1) '0' ++ ds)) = digitsValue ds := by
        rw [← List.append_assoc]
        exact digitsValue_zeros_append (w + 2) ds
      have hexp : Int.negSucc w - ds.length = -((List.replicate (w + 1) '0' ++ ds).length : Int) := by
        rw [List.length_append, List.length_replicate, Int.negSucc_eq]
        omega
      rw [pointedValue, hvalue, hexp, zpow_neg, zpow_natCast, div_eq_mul_inv]

/-- Where a point is always shown, a plain layout has digits around it that denote the number. -/
theorem exists_pointed {ds : List Char} (h : Leading ds) (whole : Int) : ∃ ws fs, Pointed ws fs ∧
    Format.layPlain true ds whole = ws ++ '.' :: fs ∧
    pointedValue ws fs = digitsValue ds * 10 ^ (whole - ds.length) := by
  rcases layPlain_cases h true whole with ⟨ws, fs, hpointed, -, hlay, hvalue⟩ | ⟨n, hn, hlay⟩
  · exact ⟨ws, fs, hpointed, hlay, hvalue⟩
  · refine ⟨ds ++ List.replicate n '0', ['0'], (h.append_zeros n).pointed (allDigits_zeros 1) (by simp),
      by simp [hlay], ?_⟩
    have hvalue : digitsValue (ds ++ List.replicate n '0' ++ ['0']) = digitsValue ds * 10 ^ n * 10 ^ 1 := by
      rw [← digitsValue_append_zeros, ← digitsValue_append_zeros]
      rfl
    rw [pointedValue, hvalue, hn, zpow_natCast]
    push_cast
    exact mul_div_cancel_right₀ _ (by norm_num)

/-- Digits with a point behind the first of them, unless that is the only one. -/
def mantissa (d : Char) (ds : List Char) : List Char := if ds = [] then [d] else d :: '.' :: ds

/-- The sign of a power of ten. -/
def powerSignText (powerSign : Bool) (power : Int) : List Char :=
  if power < 0 then ['-'] else if powerSign then ['+'] else []

theorem layPower_cons (powerSign : Bool) (d : Char) (ds : List Char) (power : Int) :
    Format.layPower powerSign (d :: ds) power =
      mantissa d ds ++ 'e' :: (powerSignText powerSign power ++ naturalDigits power.natAbs) := by
  cases ds <;> simp [Format.layPower, mantissa, powerSignText]

theorem pointedValue_leadingPower (s : Scaled) {d : Char} {ds : List Char}
    (h : naturalDigits s.coefficient = d :: ds) : pointedValue [d] ds * 10 ^ s.leadingPower = s.value := by
  have hpower : s.leadingPower = ds.length + s.exponent := by
    rw [Scaled.leadingPower, h, List.length_cons]
    omega
  have hdigits : digitsValue ([d] ++ ds) = s.coefficient := by
    rw [List.singleton_append, ← h, digitsValue_naturalDigits]
  have hne : (10 : ℚ) ^ ds.length ≠ 0 := by positivity
  rw [pointedValue, hdigits, hpower, zpow_add₀ (by norm_num), zpow_natCast, Scaled.value, ← mul_assoc,
    div_mul_cancel₀ _ hne]

/-! ## Doubles -/

/-- The sign of a double as it is written. -/
def signText (negative : Bool) : List Char := if negative then ['-'] else []

/-- A magnitude that a format writes with a point and no power of ten. -/
def Format.WritesPlain (f : Format) (m : Nat) : Prop :=
  m = 0 ∨ f.plain (shortest f.tie m).leadingPower = true

/-- A double in plain form has digits around a point, and is the nearest one to what they denote. -/
theorem write_of_plain {f : Format} (hf : f.pointZero = true) {x : Binary64} (h : f.WritesPlain x.magnitude) :
    ∃ ws fs, f.write x = signText x.negative ++ (ws ++ '.' :: fs) ∧ Pointed ws fs ∧
      NearestTo (pointedValue ws fs) x.magnitude := by
  by_cases hzero : x.magnitude = 0
  · refine ⟨['0'], ['0'], ?_, pointed_zero (allDigits_zeros 1) (by simp), ?_⟩
    · rw [Format.write, if_pos hzero, hf]
      rfl
    · have hvalue : pointedValue ['0'] ['0'] = magnitudeValue 0 := by
        have hdigits : digitsValue (['0'] ++ ['0']) = 0 := digitsValue_zeros 2
        have hunits : Binary64.unitsOf 0 = 0 := by decide
        rw [pointedValue, hdigits, magnitudeValue, hunits, Nat.cast_zero, zero_div, zero_div]
      rw [hvalue, hzero]
      exact nearestTo_magnitudeValue 0
  · have hplain := h.resolve_left hzero
    have hpos := coefficient_pos hzero f.tie
    have hnearest := nearestTo_shortest f.tie x.magnitude
    generalize hs : shortest f.tie x.magnitude = s at *
    obtain ⟨ws, fs, hpointed, hlay, hvalue⟩ :=
      exists_pointed (leading_naturalDigits (n := s.coefficient) (by omega)) (s.leadingPower + 1)
    refine ⟨ws, fs, ?_, hpointed, ?_⟩
    · rw [Format.write, if_neg hzero, hf, hs]
      dsimp only
      rw [← Scaled.leadingPower, if_pos hplain, hlay]
      rfl
    · have hexp : s.leadingPower + 1 - (naturalDigits s.coefficient).length = s.exponent := by
        rw [Scaled.leadingPower]
        omega
      rwa [hvalue, digitsValue_naturalDigits, hexp]

/-- Any other double has one digit in front of its point, if it has a point, and a power of ten. -/
theorem write_of_power {f : Format} {x : Binary64} (h : ¬ f.WritesPlain x.magnitude) :
    ∃ d ds power, f.write x = signText x.negative ++
        (mantissa d ds ++ 'e' :: (powerSignText f.powerSign power ++ naturalDigits power.natAbs)) ∧
      Leading (d :: ds) ∧ NearestTo (pointedValue [d] ds * 10 ^ power) x.magnitude := by
  obtain ⟨hzero, hplain⟩ := not_or.1 h
  have hpos := coefficient_pos hzero f.tie
  have hnearest := nearestTo_shortest f.tie x.magnitude
  generalize hs : shortest f.tie x.magnitude = s at *
  obtain ⟨d, ds, hdigits⟩ := List.exists_cons_of_ne_nil (naturalDigits_ne_nil s.coefficient)
  refine ⟨d, ds, s.leadingPower, ?_, hdigits ▸ leading_naturalDigits (by omega), ?_⟩
  · rw [Format.write, if_neg hzero, hs]
    dsimp only
    rw [← Scaled.leadingPower, if_neg hplain, hdigits, layPower_cons]
    rfl
  · rwa [pointedValue_leadingPower s hdigits]

/-! ## The bounds of the displayed form -/

/-- The magnitude nearest to a ten-thousandth. -/
def tenThousandth : Nat := 0x3F1A36E2EB1C432D

/-- The magnitude of ten to the sixteenth. -/
def tenToSixteen : Nat := 0x4341C37937E08000

theorem pow_neg_four_le_shortest_iff (m : Nat) :
    (10 : ℚ) ^ (-4 : Int) ≤ (shortest .up m).value ↔ 10 ^ (-4 : Int) ≤ magnitudeValue m := by
  have hunit : (0 : ℚ) < inUnits 1 := by exact_mod_cast inUnits_one_pos
  have hform : shortest .up tenThousandth = ⟨1, -4⟩ := by decide +kernel
  have habove : inUnits 1 ≤ Binary64.unitsOf tenThousandth * 10 ^ 4 := by decide +kernel
  have hbelow : Binary64.unitsOf (tenThousandth - 1) * 10 ^ 4 < inUnits 1 := by decide +kernel
  have hpow : (10 : ℚ) ^ (-4 : Int) = 1 / 10 ^ 4 := by norm_num
  refine pow_le_shortest_iff hform ?_ ?_ m
  · rw [hpow, magnitudeValue, div_le_div_iff₀ (by norm_num) hunit, one_mul]
    exact_mod_cast habove
  · rw [hpow, magnitudeValue, div_lt_div_iff₀ hunit (by norm_num), one_mul]
    exact_mod_cast hbelow

theorem pow_sixteen_le_shortest_iff (m : Nat) :
    (10 : ℚ) ^ (16 : Int) ≤ (shortest .up m).value ↔ 10 ^ (16 : Int) ≤ magnitudeValue m := by
  have hunit : (0 : ℚ) < inUnits 1 := by exact_mod_cast inUnits_one_pos
  have hform : shortest .up tenToSixteen = ⟨1, 16⟩ := by decide +kernel
  have habove : 10 ^ 16 * inUnits 1 ≤ Binary64.unitsOf tenToSixteen := by decide +kernel
  have hbelow : Binary64.unitsOf (tenToSixteen - 1) < 10 ^ 16 * inUnits 1 := by decide +kernel
  have hpow : (10 : ℚ) ^ (16 : Int) = 10 ^ 16 := by norm_num
  refine pow_le_shortest_iff hform ?_ ?_ m
  · rw [hpow, magnitudeValue, le_div_iff₀ hunit]
    exact_mod_cast habove
  · rw [hpow, magnitudeValue, div_lt_iff₀ hunit]
    exact_mod_cast hbelow

/-- A double is displayed without a power of ten exactly if it is zero, or from a ten-thousandth up to and
below ten to the sixteenth. -/
theorem display_plain_iff (m : Nat) : Format.display.WritesPlain m ↔
    m = 0 ∨ ((10 : ℚ) ^ (-4 : Int) ≤ magnitudeValue m ∧ magnitudeValue m < 10 ^ (16 : Int)) := by
  by_cases hm : m = 0
  · simp [hm, Format.WritesPlain]
  · have hpos := coefficient_pos hm .up
    have hplain : Format.display.plain (shortest .up m).leadingPower = true ↔
        -4 ≤ (shortest .up m).leadingPower ∧ ¬ 16 ≤ (shortest .up m).leadingPower := by
      simp [Format.display]
    have hne : (shortest .up m).coefficient ≠ 0 := by omega
    rw [Format.WritesPlain, or_iff_right hm, or_iff_right hm]
    refine hplain.trans ?_
    rw [Scaled.le_leadingPower_iff hne, Scaled.le_leadingPower_iff hne, pow_neg_four_le_shortest_iff,
      pow_sixteen_le_shortest_iff, not_le]

end FaultInjection.Decimal
