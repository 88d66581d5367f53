import FaultInjection.Proofs.Decimal.Numeral

/-!
# Rows of digits

What a row of digits is worth when it is taken apart or filled up with zeros, and the row that
`naturalDigits` writes: it denotes its number and has no zero in front, so its length tells between which
powers of ten the number lies.
-/

namespace FaultInjection.Decimal

/-! ## Values of rows -/

theorem foldl_digits (n : Nat) (ds : List Char) :
    ds.foldl (fun n c => 10 * n + digitValue c) n = n * 10 ^ ds.length + digitsValue ds := by
  induction ds generalizing n with
  | nil => simp [digitsValue]
  | cons c ds ih =>
    have hcons : digitsValue (c :: ds) = digitValue c * 10 ^ ds.length + digitsValue ds := by
      rw [digitsValue, List.foldl_cons, ih, Nat.mul_zero, Nat.zero_add]
    rw [List.foldl_cons, ih, hcons, List.length_cons, Nat.pow_succ]
    ring

theorem digitsValue_append (ds es : List Char) :
    digitsValue (ds ++ es) = digitsValue ds * 10 ^ es.length + digitsValue es := by
  rw [digitsValue, List.foldl_append, foldl_digits]
  rfl

theorem digitValue_lt {c : Char} (h : isDigit c = true) : digitValue c < 10 := by
  have hle := (bounds_of_isDigit h).2
  rw [digitValue]
  omega

theorem digitsValue_lt {ds : List Char} (h : AllDigits ds) : digitsValue ds < 10 ^ ds.length := by
  induction ds with
  | nil => decide
  | cons c ds ih =>
    obtain ⟨hc, hds⟩ := List.forall_mem_cons.1 h
    have hhead : digitValue c + 1 ≤ 10 := digitValue_lt hc
    have hscaled := Nat.mul_le_mul_right (10 ^ ds.length) hhead
    have htail := ih hds
    rw [← List.singleton_append, digitsValue_append, List.length_append, Nat.pow_add]
    have hone : digitsValue [c] = digitValue c := by simp [digitsValue]
    rw [hone, List.length_singleton, Nat.pow_one]
    rw [Nat.add_mul, Nat.one_mul] at hscaled
    omega

theorem AllDigits.take {ds : List Char} (h : AllDigits ds) (n : Nat) : AllDigits (ds.take n) :=
  fun c hc => h c (List.mem_of_mem_take hc)

theorem AllDigits.drop {ds : List Char} (h : AllDigits ds) (n : Nat) : AllDigits (ds.drop n) :=
  fun c hc => h c (List.mem_of_mem_drop hc)

theorem AllDigits.append {ds es : List Char} (h : AllDigits ds) (h' : AllDigits es) : AllDigits (ds ++ es) :=
  List.forall_mem_append.2 ⟨h, h'⟩

theorem allDigits_zeros (n : Nat) : AllDigits (List.replicate n '0') :=
  fun _ hc => (List.eq_of_mem_replicate hc) ▸ (by decide)

theorem digitsValue_zeros (n : Nat) : digitsValue (List.replicate n '0') = 0 := by
  have hzero : digitValue '0' = 0 := rfl
  induction n with
  | zero => rfl
  | succ n ih =>
    rw [List.replicate_succ, ← List.singleton_append, digitsValue_append, ih, digitsValue, List.foldl_cons, hzero]
    simp

/-- Zeros behind a row multiply it by powers of ten. -/
theorem digitsValue_append_zeros (ds : List Char) (n : Nat) :
    digitsValue (ds ++ List.replicate n '0') = digitsValue ds * 10 ^ n := by
  rw [digitsValue_append, digitsValue_zeros, List.length_replicate, Nat.add_zero]

/-- Zeros in front of a row change nothing. -/
theorem digitsValue_zeros_append (n : Nat) (ds : List Char) :
    digitsValue (List.replicate n '0' ++ ds) = digitsValue ds := by
  rw [digitsValue_append, digitsValue_zeros, Nat.zero_mul, Nat.zero_add]

/-- The last digit is what a number has beyond its tens. -/
theorem digitsValue_concat_mod (ds : List Char) {c : Char} (hc : isDigit c = true) :
    digitsValue (ds ++ [c]) % 10 = digitValue c := by
  have hlt := digitValue_lt hc
  have hone : digitsValue [c] = digitValue c := by simp [digitsValue]
  rw [digitsValue_append, hone, List.length_singleton]
  omega

theorem digitValue_injective {c d : Char} (hc : isDigit c = true) (hd : isDigit d = true)
    (h : digitValue c = digitValue d) : c = d := by
  have hc' := (bounds_of_isDigit hc).1
  have hd' := (bounds_of_isDigit hd).1
  rw [digitValue, digitValue] at h
  exact Char.toNat_inj.1 (by omega)

/-- A number has one quotient and one remainder. -/
theorem quotient_unique {p a b r t : Nat} (hr : r < p) (ht : t < p) (h : a * p + r = b * p + t) :
    a = b ∧ r = t := by
  have hdiv (x : Nat) {y : Nat} (hy : y < p) : (x * p + y) / p = x := by
    rw [Nat.mul_comm, Nat.mul_add_div (by omega), Nat.div_eq_of_lt hy, Nat.add_zero]
  obtain rfl : a = b := by rw [← hdiv a hr, h, hdiv b ht]
  exact ⟨rfl, Nat.add_left_cancel h⟩

/-- Rows of one length that denote the same number are the same. -/
theorem AllDigits.eq_of_digitsValue_eq {ds es : List Char} (hds : AllDigits ds) (hes : AllDigits es)
    (hlength : ds.length = es.length) (h : digitsValue ds = digitsValue es) : ds = es := by
  induction ds generalizing es with
  | nil => exact (List.length_eq_zero_iff.1 hlength.symm).symm
  | cons c ds ih =>
    cases es with
    | nil => cases hlength
    | cons d es =>
      obtain ⟨hc, hds⟩ := List.forall_mem_cons.1 hds
      obtain ⟨hd, hes⟩ := List.forall_mem_cons.1 hes
      have hlength' : ds.length = es.length := Nat.succ.inj hlength
      have hcut (b : Char) (bs : List Char) :
          digitsValue (b :: bs) = digitValue b * 10 ^ bs.length + digitsValue bs := by
        rw [← List.singleton_append, digitsValue_append]
        simp [digitsValue]
      rw [hcut, hcut, hlength'] at h
      obtain ⟨hhead, htail⟩ := quotient_unique (hlength' ▸ digitsValue_lt hds) (digitsValue_lt hes) h
      rw [digitValue_injective hc hd hhead, ih hds hes hlength' htail]

/-! ## The digits of a number -/

theorem isDigit_of_ascii {c : Char} (h : c.isDigit = true) : isDigit c = true := by
  simpa [isDigit, Char.isDigit, Char.le_def] using h

theorem allDigits_naturalDigits (n : Nat) : AllDigits (naturalDigits n) :=
  fun _ hc => isDigit_of_ascii (Nat.isDigit_of_mem_toDigits (by decide) (by decide) hc)

theorem naturalDigits_ne_nil (n : Nat) : naturalDigits n ≠ [] := Nat.toDigits_ne_nil

theorem digitsValue_naturalDigits (n : Nat) : digitsValue (naturalDigits n) = n :=
  Nat.ofDigitChars_ten_toDigits

/-- Only zero is written with a zero in front. -/
theorem head?_naturalDigits {n : Nat} (hn : n ≠ 0) : (naturalDigits n).head? ≠ some '0' := by
  have hdigit : ∀ d < 10, d ≠ 0 → Nat.digitChar d ≠ '0' := by decide
  induction n using Nat.strong_induction_on with
  | _ n ih =>
    rw [naturalDigits]
    by_cases hlt : n < 10
    · rw [Nat.toDigits_of_lt_base hlt, List.head?_cons, Ne, Option.some.injEq]
      exact hdigit n hlt hn
    · rw [Nat.toDigits_of_base_le (by decide) (by omega), List.head?_append, Option.or_of_isSome]
      · exact ih (n / 10) (by omega) (by omega)
      · simp

theorem naturalDigits_lt (n : Nat) : n < 10 ^ (naturalDigits n).length := by
  have h := digitsValue_lt (allDigits_naturalDigits n)
  rwa [digitsValue_naturalDigits] at h

/-- A number has no more digits than it needs. -/
theorem le_naturalDigits {n : Nat} (hn : n ≠ 0) : 10 ^ ((naturalDigits n).length - 1) ≤ n := by
  by_cases hone : (naturalDigits n).length - 1 = 0
  · rw [hone, Nat.pow_zero]
    omega
  · by_contra hlt
    have hle := (Nat.length_toDigits_le_iff (by decide) (by omega)).2 (Nat.lt_of_not_le hlt)
    rw [← naturalDigits] at hle
    omega

end FaultInjection.Decimal
