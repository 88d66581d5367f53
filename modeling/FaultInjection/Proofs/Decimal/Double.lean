import FaultInjection.Decimal.Extended
import FaultInjection.Proofs.Decimal.Shortest
import FaultInjection.Proofs.Json.Grammar

/-!
# Texts of integers and doubles

`IntegerText` and `ExtendedText` say which texts stand for an integer of sixty-four bits or for a double, and for
which: an integer is digits behind an optional sign; a double is the nearest one to a decimal number, which may
have a point and a power of ten, or one of the words for what is not finite. `signed?_eq_some_iff` and
`read?_eq_some_iff` say that the readers follow them.
-/

namespace FaultInjection.Decimal

open Extended

/-! ## The texts -/

/-- An integer of sixty-four bits: digits behind an optional sign. -/
inductive IntegerText : List Char → Int → Prop where
  | intro {sign ds : List Char} {negative : Bool} : SignText sign negative → AllDigits ds → ds ≠ [] →
      digitsValue ds ≤ (if negative then 2 ^ 63 else 2 ^ 63 - 1) →
      IntegerText (sign ++ ds) (if negative then -(digitsValue ds : Int) else digitsValue ds)

/-- A decimal number: its sign, and its absolute value. -/
inductive DecimalText : List Char → Bool → ℚ → Prop where
  | intro {sign number ds mark : List Char} {negative : Bool} {places : Nat} {power : Option Int} :
      SignText sign negative → PointedDigits number ds places → Json.PowerText mark power →
      DecimalText (sign ++ (number ++ mark)) negative (digitsValue ds * 10 ^ (power.getD 0 - places))

/-- Whether a double is nearest to a number with this sign and absolute value; infinity is if no finite one is. -/
def Extended.Nearest (negative : Bool) (v : ℚ) : Extended → Prop
  | finite x => x.negative = negative ∧ NearestTo v x.magnitude
  | infinite n => n = negative ∧ ∀ m < infinityMagnitude, ¬ NearestTo v m
  | notANumber => False

/-- A double: a decimal number, or a word behind an optional sign. -/
inductive ExtendedText : List Char → Extended → Prop where
  | number {cs : List Char} {negative : Bool} {v : ℚ} {x : Extended} : DecimalText cs negative v →
      x.Nearest negative v → ExtendedText cs x
  | infinity {sign word : List Char} {negative : Bool} : SignText sign negative →
      lowered word = "inf".toList ∨ lowered word = "infinity".toList →
      ExtendedText (sign ++ word) (.infinite negative)
  | notANumber {sign word : List Char} {negative : Bool} : SignText sign negative →
      lowered word = "nan".toList → ExtendedText (sign ++ word) .notANumber

/-! ## Signs -/

/-- Whether a text begins with a minus sign, and what stands behind its sign. -/
def unsign (cs : List Char) : Bool × List Char :=
  match cs with
  | '-' :: ds => (true, ds)
  | '+' :: ds => (false, ds)
  | ds => (false, ds)

theorem exists_sign (cs : List Char) : ∃ sign, SignText sign (unsign cs).1 ∧ cs = sign ++ (unsign cs).2 := by
  unfold unsign
  split
  · exact ⟨['-'], .minus, rfl⟩
  · exact ⟨['+'], .plus, rfl⟩
  · exact ⟨[], .none, rfl⟩

theorem unsign_of_ne {cs : List Char} (hminus : ∀ ds, cs = '-' :: ds → False) (hplus : ∀ ds, cs = '+' :: ds → False) :
    unsign cs = (false, cs) := by
  unfold unsign
  split
  · exact (hminus _ rfl).elim
  · exact (hplus _ rfl).elim
  · rfl

theorem unsign_append {sign ds : List Char} {negative : Bool} (h : SignText sign negative)
    (hminus : ds.head? ≠ some '-') (hplus : ds.head? ≠ some '+') : unsign (sign ++ ds) = (negative, ds) := by
  cases h with
  | minus => rfl
  | plus => rfl
  | none =>
    refine unsign_of_ne ?_ ?_
    · rintro ds' rfl
      exact hminus rfl
    · rintro ds' rfl
      exact hplus rfl

theorem AllDigits.head?_ne {ds : List Char} (h : AllDigits ds) {c : Char} (hc : isDigit c = false) :
    ds.head? ≠ some c := by
  intro hhead
  have := h c (List.mem_of_mem_head? hhead)
  rw [hc] at this
  cases this

theorem map_neg_eq (o : Option Nat) : (do let n ← o; pure (n : Int)).map (-·) = o.map fun n : Nat => -(n : Int) := by
  cases o <;> rfl

theorem signed?_eq (cs : List Char) : signed? cs =
    ((natural? (unsign cs).2).filter (· ≤ (if (unsign cs).1 then 2 ^ 63 else 2 ^ 63 - 1))).map
      fun n : Nat => if (unsign cs).1 then -(n : Int) else (n : Int) := by
  have hbound : ∀ n : Nat, decide (n < signedBound) = decide (n ≤ 2 ^ 63 - 1) := by
    intro n
    have : signedBound = 2 ^ 63 := rfl
    rw [decide_eq_decide]
    omega
  unfold signed?
  split
  · exact map_neg_eq _
  · simp only [hbound]
    rfl
  · next hminus hplus =>
    rw [unsign_of_ne hminus hplus]
    simp only [hbound]
    rfl

theorem signed?_eq_some_iff {cs : List Char} {n : Int} : signed? cs = some n ↔ IntegerText cs n := by
  rw [signed?_eq]
  constructor
  · intro h
    obtain ⟨m, hm, rfl⟩ := Option.map_eq_some_iff.1 h
    obtain ⟨hread, hle⟩ := Option.filter_eq_some_iff.1 hm
    obtain ⟨hdigits, hne, rfl⟩ := natural?_eq_some_iff.1 hread
    obtain ⟨sign, hsign, hcs⟩ := exists_sign cs
    have htext := IntegerText.intro hsign hdigits hne (of_decide_eq_true hle)
    rwa [← hcs] at htext
  · rintro ⟨hsign, hdigits, hne, hle⟩
    rw [unsign_append hsign (hdigits.head?_ne (by decide)) (hdigits.head?_ne (by decide)),
      natural?_eq_some_iff.2 ⟨hdigits, hne, rfl⟩]
    simp only [Option.filter_some, decide_eq_true hle, if_true, Option.map_some]

/-! ## Decimal numbers -/

namespace Numeral

/-- The absolute value of a numeral. -/
def value (x : Numeral) : ℚ := x.coefficient * 10 ^ x.exponent

theorem plain?_eq (cs : List Char) : plain? cs = unsigned? (unsign cs).1 (unsign cs).2 := by
  unfold plain?
  split
  · rfl
  · rfl
  · next hminus hplus => rw [unsign_of_ne hminus hplus]

theorem power?_cons {e : Char} (he : e = 'e' ∨ e = 'E') (cs : List Char) : power? (e :: cs) =
    (natural? (unsign cs).2).map fun n : Nat => if (unsign cs).1 then -(n : Int) else (n : Int) := by
  unfold power?
  dsimp only
  rw [if_pos he]
  split
  · exact map_neg_eq _
  · rfl
  · next hminus hplus =>
    rw [unsign_of_ne hminus hplus]
    rfl

theorem power?_eq_some_iff {cs : List Char} {e : Int} :
    power? cs = some e ↔ ∃ power, Json.PowerText cs power ∧ power.getD 0 = e := by
  constructor
  · intro h
    cases cs with
    | nil => exact ⟨none, .absent, Option.some.inj h⟩
    | cons c cs =>
      by_cases hc : c = 'e' ∨ c = 'E'
      · rw [power?_cons hc] at h
        obtain ⟨n, hn, rfl⟩ := Option.map_eq_some_iff.1 h
        obtain ⟨hdigits, hne, rfl⟩ := natural?_eq_some_iff.1 hn
        obtain ⟨sign, hsign, hcs⟩ := exists_sign cs
        have htext := Json.PowerText.given hc hsign hdigits hne
        rw [← hcs] at htext
        exact ⟨_, htext, rfl⟩
      · unfold power? at h
        dsimp only at h
        rw [if_neg hc] at h
        cases h
  · rintro ⟨power, hpower, rfl⟩
    cases hpower with
    | absent => rfl
    | given he hsign hdigits hne =>
      rw [power?_cons he, unsign_append hsign (hdigits.head?_ne (by decide)) (hdigits.head?_ne (by decide)),
        natural?_eq_some_iff.2 ⟨hdigits, hne, rfl⟩]
      rfl

/-- An unsigned numeral ends where neither a digit nor a point follows. -/
theorem unsigned?_append {negative : Bool} {number ds mark : List Char} {places : Nat}
    (h : PointedDigits number ds places) (hmark : ∀ c ∈ mark.head?, isDigit c = false ∧ c ≠ '.') :
    unsigned? negative (number ++ mark) = some (⟨negative, digitsValue ds, -(places : Int)⟩, mark) := by
  have hspan {ds : List Char} (hd : AllDigits ds) : spanDigits (ds ++ mark) = (ds, mark) :=
    Json.spanDigits_of_head hd fun c hc => (hmark c hc).1
  cases h with
  | whole hd hn =>
    obtain ⟨htake, hdrop⟩ := Prod.mk.inj (hspan hd)
    have hpoint : mark.head? ≠ some '.' := fun hc => (hmark '.' hc).2 rfl
    rw [unsigned?_whole (by rwa [hdrop]), htake, hdrop, if_neg (by simpa using hn)]
    rfl
  | pointed hw hf hn =>
    obtain ⟨htake, hdrop⟩ := Prod.mk.inj (hspan hf)
    rw [List.append_assoc, List.cons_append, unsigned?_pointed hw, htake, hdrop, if_neg (by simpa using hn)]

theorem exists_of_unsigned? {negative : Bool} {cs rest : List Char} {x : Numeral}
    (h : unsigned? negative cs = some (x, rest)) : ∃ number ds places, cs = number ++ rest ∧
      PointedDigits number ds places ∧ x = ⟨negative, digitsValue ds, -(places : Int)⟩ := by
  have hjoin : cs.takeWhile isDigit ++ cs.dropWhile isDigit = cs := List.takeWhile_append_dropWhile
  have hwhole := allDigits_takeWhile cs
  by_cases hpoint : (cs.dropWhile isDigit).head? = some '.'
  · obtain ⟨fraction, hrest⟩ := List.head?_eq_some_iff.1 hpoint
    have hsplit : fraction.takeWhile isDigit ++ fraction.dropWhile isDigit = fraction :=
      List.takeWhile_append_dropWhile
    rw [hrest] at hjoin
    rw [← hjoin, unsigned?_pointed hwhole] at h
    obtain ⟨hne, h⟩ := Option.ite_none_left_eq_some.1 h
    obtain ⟨rfl, rfl⟩ := Prod.mk.inj (Option.some.inj h)
    refine ⟨_, _, _, ?_, .pointed hwhole (allDigits_takeWhile fraction) (by simpa using hne), rfl⟩
    rw [List.append_assoc, List.cons_append, hsplit, hjoin]
  · rw [unsigned?_whole hpoint] at h
    obtain ⟨hne, h⟩ := Option.ite_none_left_eq_some.1 h
    obtain ⟨rfl, rfl⟩ := Prod.mk.inj (Option.some.inj h)
    exact ⟨_, _, _, hjoin.symm, .whole hwhole (by simpa using hne), rfl⟩

theorem value_scale (negative : Bool) (c places : Nat) (e : Int) :
    (scale ⟨negative, c, -(places : Int)⟩ e).value = c * 10 ^ (e - places) := by
  rw [value, scale, neg_add_eq_sub]

theorem decimalText_of_read? {cs : List Char} {x : Numeral} (h : read? cs = some x) :
    DecimalText cs x.negative x.value := by
  unfold read? at h
  split at h
  · cases h
  · next y rest hy =>
    obtain ⟨e, he, rfl⟩ := Option.map_eq_some_iff.1 h
    obtain ⟨power, hpower, rfl⟩ := power?_eq_some_iff.1 he
    rw [plain?_eq] at hy
    obtain ⟨number, ds, places, hnumber, hdigits, rfl⟩ := exists_of_unsigned? hy
    obtain ⟨sign, hsign, hcs⟩ := exists_sign cs
    have htext := DecimalText.intro hsign hdigits hpower
    rw [← hnumber, ← hcs] at htext
    rw [value_scale]
    exact htext

theorem exists_read?_of_decimalText {cs : List Char} {negative : Bool} {v : ℚ} (h : DecimalText cs negative v) :
    ∃ x, read? cs = some x ∧ x.negative = negative ∧ x.value = v := by
  obtain ⟨hsign, hdigits, hpower⟩ := h
  next sign number ds mark places power =>
  have hhead {c : Char} (hd : isDigit c = false) (hp : c ≠ '.') : (number ++ mark).head? ≠ some c := by
    obtain ⟨c', number', rfl⟩ := List.exists_cons_of_ne_nil hdigits.ne_nil
    exact hdigits.head?_ne hd hp
  refine ⟨scale ⟨negative, digitsValue ds, -(places : Int)⟩ (power.getD 0), ?_, rfl, value_scale _ _ _ _⟩
  rw [read?, plain?_eq, unsign_append hsign (hhead (by decide) (by decide)) (hhead (by decide) (by decide)),
    unsigned?_append hdigits hpower.head]
  dsimp only
  rw [power?_eq_some_iff.2 ⟨power, hpower, rfl⟩]
  rfl

/-! ## Rounding -/

theorem nearestTo_value_iff {x : Numeral} {m : Nat} : NearestTo x.value m ↔
    m = nearestMagnitude (Scaled.ratio ⟨x.coefficient, x.exponent⟩).1 (Scaled.ratio ⟨x.coefficient, x.exponent⟩).2 := by
  have hscaled : x.value = Scaled.value ⟨x.coefficient, x.exponent⟩ := rfl
  rw [hscaled, Scaled.value_eq_ratio, nearestTo_div_iff (Scaled.ratio_pos _), isNearest_iff (Scaled.ratio_pos _)]

/-- From this power of ten on, numbers round to infinity. -/
def overPower : Nat := 310

theorem infinity_le_nearestMagnitude : infinityMagnitude ≤ nearestMagnitude (Nat.pow 10 overPower) 1 := by
  decide +kernel

theorem nearestTo_pow (k : Nat) : NearestTo (10 ^ k) (nearestMagnitude (Nat.pow 10 k) 1) := by
  have hcast : ((Nat.pow 10 k : Nat) : ℚ) = 10 ^ k := Nat.cast_pow 10 k
  exact ⟨Nat.pow 10 k, 1, Nat.one_pos, by rw [hcast, Nat.cast_one, div_one], isNearest_nearestMagnitude Nat.one_pos⟩

theorem infinity_le_of_nearestTo {v : ℚ} {m : Nat} (hv : 10 ^ overPower ≤ v) (h : NearestTo v m) :
    infinityMagnitude ≤ m :=
  infinity_le_nearestMagnitude.trans ((nearestTo_pow overPower).mono hv h)

theorem pow_le_value {x : Numeral} (hc : x.coefficient ≠ 0) (he : overPower < x.exponent) :
    10 ^ overPower ≤ x.value := by
  have hone : (1 : ℚ) ≤ x.coefficient := by exact_mod_cast Nat.one_le_iff_ne_zero.2 hc
  have hpow : (10 : ℚ) ^ (overPower : Int) ≤ 10 ^ x.exponent := zpow_le_zpow_right₀ (by norm_num) he.le
  calc (10 : ℚ) ^ overPower = 1 * 10 ^ (overPower : Int) := by rw [one_mul, zpow_natCast]
    _ ≤ x.coefficient * 10 ^ x.exponent := mul_le_mul hone hpow (by positivity) (by positivity)

theorem two_mul_inUnits_lt {c k : Nat} (h : Nat.log2 c + 1076 ≤ 3 * k) : 2 * inUnits c < 10 ^ k := by
  unfold inUnits
  exact two_mul_lt_pow_ten (a := 1074) h

/-- A numeral is rounded to the nearest double, if that is finite. -/
theorem toBinary64?_iff {x : Numeral} {d : Binary64} :
    x.toBinary64? = some d ↔ d.negative = x.negative ∧ NearestTo x.value d.magnitude := by
  by_cases hc : x.coefficient = 0
  · have hzero : NearestTo x.value 0 := by
      rw [value, hc, Nat.cast_zero, zero_mul]
      have hunits : 2 * inUnits 0 < 1 := by
        rw [inUnits_zero]
        exact Nat.one_pos
      exact ⟨0, 1, Nat.one_pos, by norm_num, (isNearest_iff Nat.one_pos).2 (nearestMagnitude_eq_zero hunits).symm⟩
    rw [toBinary64?, if_pos hc, Option.some.injEq, signedZero_eq_iff]
    exact and_congr_right fun _ => ⟨fun h => h ▸ hzero, fun h => h.unique hzero⟩
  · by_cases hover : 310 < x.exponent
    · rw [toBinary64?, if_neg hc, if_pos hover]
      constructor
      · intro h
        cases h
      · rintro ⟨-, h⟩
        exact absurd d.magnitude_lt (Nat.not_lt.2 (infinity_le_of_nearestTo (pow_le_value hc hover) h))
    · rw [nearestTo_value_iff, toBinary64?, if_neg hc, if_neg hover]
      obtain ⟨negative, c, e⟩ := x
      dsimp only
      split
      · next hsmall =>
        cases e with
        | ofNat e =>
          rw [Int.ofNat_eq_natCast] at hsmall
          omega
        | negSucc e =>
          have hplaces : Nat.log2 c + 1076 ≤ 3 * (e + 1) := by omega
          have hmagnitude : nearestMagnitude (Scaled.ratio ⟨c, .negSucc e⟩).1 (Scaled.ratio ⟨c, .negSucc e⟩).2 = 0 :=
            nearestMagnitude_eq_zero (two_mul_inUnits_lt hplaces)
          rw [hmagnitude, Option.some.injEq, signedZero_eq_iff]
      · cases e with
        | ofNat e => exact nearest?_eq_some_iff
        | negSucc e => exact nearest?_eq_some_iff

end Numeral

/-! ## Doubles -/

theorem Extended.Nearest.unique {negative : Bool} {v : ℚ} {x y : Extended} (hx : x.Nearest negative v)
    (hy : y.Nearest negative v) : x = y := by
  cases x with
  | notANumber => exact hx.elim
  | finite x =>
    obtain ⟨hsign, hnear⟩ := hx
    cases y with
    | notANumber => exact hy.elim
    | finite y =>
      obtain ⟨hsign', hnear'⟩ := hy
      obtain ⟨xn, xm, hxm⟩ := x
      obtain ⟨yn, ym, hym⟩ := y
      obtain rfl : xn = yn := hsign.trans hsign'.symm
      obtain rfl : xm = ym := hnear.unique hnear'
      rfl
    | infinite n => exact absurd hnear (hy.2 _ x.magnitude_lt)
  | infinite n =>
    cases y with
    | notANumber => exact hy.elim
    | finite y => exact absurd hy.2 (hx.2 _ y.magnitude_lt)
    | infinite n' => rw [hx.1, hy.1]

theorem nearest_ofNumeral (x : Numeral) : (ofNumeral x).Nearest x.negative x.value := by
  unfold ofNumeral
  split
  · next d hd => exact Numeral.toBinary64?_iff.1 hd
  · next hnone =>
    refine ⟨rfl, fun m hm hnear => ?_⟩
    have hsome : x.toBinary64? = some ⟨x.negative, m, hm⟩ := Numeral.toBinary64?_iff.2 ⟨rfl, hnear⟩
    rw [hnone] at hsome
    cases hsome

theorem toLower_of_isDigit {c : Char} (h : isDigit c = true) : c.toLower = c := by
  have hbounds := bounds_of_isDigit h
  have hupper : ¬ (c.val ≥ 'A'.val ∧ c.val ≤ 'Z'.val) := by
    rintro ⟨hlow, -⟩
    have : 65 ≤ c.toNat := hlow
    omega
  exact dif_neg hupper

/-- A word that gives a text without digits in lower case has none itself. -/
theorem not_isDigit_of_lowered {word cs : List Char} (h : lowered word = cs) (hcs : cs.all (!isDigit ·) = true) :
    ∀ c ∈ word, isDigit c = false := by
  intro c hc
  by_contra hdigit
  rw [Bool.not_eq_false] at hdigit
  have hmem : c ∈ cs := by
    rw [← h, ← toLower_of_isDigit hdigit]
    exact List.mem_map_of_mem hc
  have := List.all_eq_true.1 hcs c hmem
  rw [hdigit] at this
  cases this

/-- A sign stays as it is in lower case. -/
theorem head?_ne_of_lowered {word cs : List Char} (h : lowered word = cs) {c : Char} (hc : c.toLower = c)
    (hcs : cs.head? ≠ some c) : word.head? ≠ some c := by
  intro hhead
  refine hcs ?_
  rw [← h, lowered, List.head?_map, hhead, Option.map_some, hc]

theorem PointedDigits.exists_digit {cs ds : List Char} {places : Nat} (h : PointedDigits cs ds places) :
    ∃ c ∈ cs, isDigit c = true := by
  cases h with
  | whole hd hn =>
    obtain ⟨c, ds, rfl⟩ := List.exists_cons_of_ne_nil hn
    exact ⟨c, List.mem_cons_self, hd c List.mem_cons_self⟩
  | pointed hw hf hn =>
    obtain ⟨c, hc⟩ := List.exists_mem_of_ne_nil _ hn
    rcases List.mem_append.1 hc with hc | hc
    · exact ⟨c, List.mem_append_left _ hc, hw c hc⟩
    · exact ⟨c, List.mem_append_right _ (List.mem_cons_of_mem _ hc), hf c hc⟩

theorem DecimalText.exists_digit {cs : List Char} {negative : Bool} {v : ℚ} (h : DecimalText cs negative v) :
    ∃ c ∈ cs, isDigit c = true := by
  obtain ⟨-, hdigits, -⟩ := h
  obtain ⟨c, hc, hdigit⟩ := hdigits.exists_digit
  exact ⟨c, List.mem_append_right _ (List.mem_append_left _ hc), hdigit⟩

theorem not_isDigit_of_signText {sign : List Char} {negative : Bool} (h : SignText sign negative) :
    ∀ c ∈ sign, isDigit c = false := by
  intro c hc
  cases h with
  | none => cases hc
  | plus =>
    obtain rfl := List.mem_singleton.1 hc
    decide
  | minus =>
    obtain rfl := List.mem_singleton.1 hc
    decide

/-- A word behind a sign is no decimal number. -/
theorem read?_eq_none_of_word {sign word cs : List Char} {negative : Bool} (hsign : SignText sign negative)
    (h : lowered word = cs) (hcs : cs.all (!isDigit ·) = true) : Numeral.read? (sign ++ word) = none := by
  rw [Option.eq_none_iff_forall_ne_some]
  intro x hx
  obtain ⟨c, hc, hdigit⟩ := (Numeral.decimalText_of_read? hx).exists_digit
  have hno : isDigit c = false := by
    rcases List.mem_append.1 hc with hc | hc
    · exact not_isDigit_of_signText hsign c hc
    · exact not_isDigit_of_lowered h hcs c hc
  rw [hno] at hdigit
  cases hdigit

theorem Extended.read?_eq (cs : List Char) : read? cs =
    ((Numeral.read? cs).map ofNumeral).or (word? (unsign cs).1 (unsign cs).2) := by
  unfold read?
  split
  · next x hx => rw [hx]; rfl
  · next hnone =>
    rw [hnone]
    split
    · rfl
    · rfl
    · next hminus hplus =>
      rw [unsign_of_ne hminus hplus]
      rfl

theorem Extended.read?_of_word {sign word cs : List Char} {negative : Bool} (hsign : SignText sign negative)
    (h : lowered word = cs) (hcs : cs.all (!isDigit ·) = true) (hminus : cs.head? ≠ some '-')
    (hplus : cs.head? ≠ some '+') : read? (sign ++ word) = word? negative word := by
  rw [read?_eq, read?_eq_none_of_word hsign h hcs, unsign_append hsign (head?_ne_of_lowered h rfl hminus)
    (head?_ne_of_lowered h rfl hplus)]
  rfl

theorem Extended.read?_eq_some_iff {cs : List Char} {x : Extended} : read? cs = some x ↔ ExtendedText cs x := by
  constructor
  · intro h
    rw [read?_eq] at h
    cases hnumber : Numeral.read? cs with
    | some y =>
      rw [hnumber] at h
      obtain rfl := Option.some.inj h
      exact .number (Numeral.decimalText_of_read? hnumber) (nearest_ofNumeral y)
    | none =>
      rw [hnumber] at h
      obtain ⟨sign, hsign, hcs⟩ := exists_sign cs
      rw [hcs]
      change word? (unsign cs).1 (unsign cs).2 = some x at h
      unfold word? at h
      split at h
      · next hword =>
        obtain rfl := Option.some.inj h
        exact .infinity hsign hword
      · split at h
        · next hword =>
          obtain rfl := Option.some.inj h
          exact .notANumber hsign hword
        · cases h
  · intro h
    cases h with
    | number hdecimal hnearest =>
      obtain ⟨y, hread, rfl, rfl⟩ := Numeral.exists_read?_of_decimalText hdecimal
      rw [read?_eq, hread, hnearest.unique (nearest_ofNumeral y)]
      rfl
    | @infinity sign word negative hsign hword =>
      have hread : read? (sign ++ word) = word? negative word := by
        rcases hword with hword | hword <;>
          exact read?_of_word hsign hword (by decide) (by decide) (by decide)
      rw [hread, word?, if_pos hword]
    | notANumber hsign hword =>
      rw [read?_of_word hsign hword (by decide) (by decide) (by decide), word?, hword]
      rfl

end FaultInjection.Decimal
