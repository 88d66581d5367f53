import FaultInjection.Decimal.Extended
import FaultInjection.Proofs.Decimal.Fewest
import FaultInjection.Proofs.Decimal.Format
import FaultInjection.Proofs.Json.Literal

/-!
# The text of a double without a power of ten

`PositionalText` says what a double looks like where no power of ten is written: a minus sign or none, and the
digits of its briefest decimal, with a point only before digits that do not end in zero; or one of the words for
what is no finite number. Every double has one such text and no other, and it is the one that is displayed:
`positionalText_iff`.
-/

namespace FaultInjection

namespace Decimal

/-! ## The texts -/

/-- Digits behind a point, with the point if there are any. -/
def fractionText (fs : List Char) : List Char := if fs = [] then [] else '.' :: fs

/-- The digits of a number, with a point among them if it is needed, and none that is idle. -/
inductive PlainText : List Char → ℚ → Prop where
  | intro {ws fs : List Char} : Json.WholeText ws → AllDigits fs → fs.getLast? ≠ some '0' →
      PlainText (ws ++ fractionText fs) (pointedValue ws fs)

/-- The text of a double without a power of ten. -/
inductive PositionalText : Extended → List Char → Prop where
  | finite {x : Binary64} {cs : List Char} {v : ℚ} : PlainText cs v → Briefest x.magnitude v →
      PositionalText (.finite x) (signText x.negative ++ cs)
  | infinite (negative : Bool) : PositionalText (.infinite negative) (signText negative ++ "inf".toList)
  | notANumber : PositionalText .notANumber "NaN".toList

/-! ## One text for each number -/

theorem Leading.le_digitsValue {ds : List Char} (h : Leading ds) : 10 ^ (ds.length - 1) ≤ digitsValue ds := by
  obtain ⟨c, ds, rfl⟩ := List.exists_cons_of_ne_nil h.ne_nil
  have hc : isDigit c = true := h.digits c List.mem_cons_self
  have hpos : 1 ≤ digitValue c := by
    by_contra hzero
    have hvalue : digitValue c = digitValue '0' := by
      rw [show digitValue '0' = 0 from rfl]
      omega
    exact h.head (congrArg some (digitValue_injective hc (by decide) hvalue))
  have hone : digitsValue [c] = digitValue c := by simp [digitsValue]
  rw [← List.singleton_append, digitsValue_append, hone, List.length_append, List.length_singleton,
    Nat.add_sub_cancel_left]
  exact (Nat.le_mul_of_pos_left _ hpos).trans (Nat.le_add_right _ _)

theorem Leading.eq_of_digitsValue_eq {ds es : List Char} (hds : Leading ds) (hes : Leading es)
    (h : digitsValue ds = digitsValue es) : ds = es := by
  have hone : 1 ≤ ds.length := List.length_pos_of_ne_nil hds.ne_nil
  have hone' : 1 ≤ es.length := List.length_pos_of_ne_nil hes.ne_nil
  have hlt : 10 ^ (ds.length - 1) < 10 ^ es.length :=
    hds.le_digitsValue.trans_lt (h ▸ digitsValue_lt hes.digits)
  have hlt' : 10 ^ (es.length - 1) < 10 ^ ds.length :=
    hes.le_digitsValue.trans_lt (h ▸ digitsValue_lt hds.digits)
  rw [Nat.pow_lt_pow_iff_right (by decide)] at hlt hlt'
  exact hds.digits.eq_of_digitsValue_eq hes.digits (by omega) h

theorem Leading.wholeText {ds : List Char} (h : Leading ds) : Json.WholeText ds := ⟨h.digits, h.ne_nil, .inr h.head⟩

end Decimal

namespace Json.WholeText

open Decimal

variable {ds es : List Char}

theorem zero_or_leading (h : WholeText ds) : ds = ['0'] ∨ Leading ds :=
  h.no_idle_zero.imp_right fun hhead => ⟨h.digits, h.ne_nil, hhead⟩

theorem eq_of_digitsValue_eq (hds : WholeText ds) (hes : WholeText es) (h : digitsValue ds = digitsValue es) :
    ds = es := by
  have hzero : digitsValue ['0'] = 0 := rfl
  have hpos {bs : List Char} (hbs : Leading bs) : digitsValue bs ≠ 0 :=
    Nat.ne_of_gt ((Nat.pow_pos (by decide)).trans_le hbs.le_digitsValue)
  rcases hds.zero_or_leading with rfl | hds
  · rcases hes.zero_or_leading with rfl | hes
    · rfl
    · exact absurd (h.symm.trans hzero) (hpos hes)
  · rcases hes.zero_or_leading with rfl | hes
    · exact absurd (h.trans hzero) (hpos hds)
    · exact hds.eq_of_digitsValue_eq hes h

/-- No other whole part is worth a natural number than its digits. -/
theorem eq_naturalDigits {n : Nat} (h : WholeText ds) (hn : digitsValue ds = n) : ds = naturalDigits n :=
  h.eq_of_digitsValue_eq (wholeText_naturalDigits n) (hn.trans (digitsValue_naturalDigits n).symm)

end Json.WholeText

namespace Decimal

/-- Digits with a last one that is no zero need all their places. -/
theorem digitsValue_mod_ne_zero {ws fs : List Char} (hf : AllDigits fs) (hlast : fs.getLast? ≠ some '0')
    (hne : fs ≠ []) : digitsValue (ws ++ fs) % 10 ≠ 0 := by
  obtain ⟨init, c, rfl⟩ : ∃ init c, fs = init ++ [c] := ⟨_, _, (List.dropLast_append_getLast hne).symm⟩
  have hc : isDigit c = true := hf c (by simp)
  rw [← List.append_assoc, digitsValue_concat_mod _ hc]
  intro hzero
  have hsame : c = '0' := digitValue_injective hc (by decide) hzero
  exact hlast (by simp [hsame])

/-- A fraction has one form in which no place is idle. -/
theorem places_unique {n n' a b : Nat} (h : (n : ℚ) / 10 ^ a = n' / 10 ^ b) (ha : a = 0 ∨ n % 10 ≠ 0)
    (hb : b = 0 ∨ n' % 10 ≠ 0) : n = n' ∧ a = b := by
  wlog hle : a ≤ b generalizing n n' a b
  · obtain ⟨hn, hab⟩ := this h.symm hb ha (Nat.le_of_not_le hle)
    exact ⟨hn.symm, hab.symm⟩
  obtain ⟨k, rfl⟩ : ∃ k, b = a + k := ⟨b - a, by omega⟩
  have hscaled : n' = n * 10 ^ k := by
    rw [div_eq_div_iff (by positivity) (by positivity), pow_add] at h
    have hpow : (10 : ℚ) ^ a ≠ 0 := by positivity
    have hcancelled : (n * 10 ^ k : ℚ) = n' := mul_right_cancel₀ hpow (by linarith)
    exact_mod_cast hcancelled.symm
  cases k with
  | zero => exact ⟨by rw [hscaled, Nat.pow_zero, Nat.mul_one], rfl⟩
  | succ k =>
    have hten : n' % 10 = 0 := by
      rw [hscaled, Nat.pow_succ, ← Nat.mul_assoc]
      exact Nat.mul_mod_left _ _
    omega

theorem PlainText.unique {cs cs' : List Char} {v : ℚ} (h : PlainText cs v) (h' : PlainText cs' v) : cs = cs' := by
  generalize hv : v = v' at h'
  obtain ⟨hw, hf, hlast⟩ := h
  obtain ⟨hw', hf', hlast'⟩ := h'
  next ws fs ws' fs' =>
  have hplaces : fs.length = 0 ∨ digitsValue (ws ++ fs) % 10 ≠ 0 := by
    by_cases hne : fs = []
    · exact .inl (by rw [hne]; rfl)
    · exact .inr (digitsValue_mod_ne_zero hf hlast hne)
  have hplaces' : fs'.length = 0 ∨ digitsValue (ws' ++ fs') % 10 ≠ 0 := by
    by_cases hne : fs' = []
    · exact .inl (by rw [hne]; rfl)
    · exact .inr (digitsValue_mod_ne_zero hf' hlast' hne)
  obtain ⟨hvalue, hlength⟩ := places_unique hv hplaces hplaces'
  rw [digitsValue_append, digitsValue_append, hlength] at hvalue
  obtain ⟨hwhole, hfraction⟩ := quotient_unique (hlength ▸ digitsValue_lt hf) (digitsValue_lt hf') hvalue
  rw [hw.eq_of_digitsValue_eq hw' hwhole, hf.eq_of_digitsValue_eq hf' hlength hfraction]

theorem PositionalText.unique {x : Extended} {cs cs' : List Char} (h : PositionalText x cs)
    (h' : PositionalText x cs') : cs = cs' := by
  cases h with
  | finite hplain hbrief =>
    cases h' with
    | finite hplain' hbrief' =>
      obtain rfl := hbrief.unique hbrief'
      rw [hplain.unique hplain']
  | infinite _ => cases h'; rfl
  | notANumber => cases h'; rfl

/-! ## The text that is displayed -/

theorem getLast?_naturalDigits {n : Nat} (hn : n % 10 ≠ 0) : (naturalDigits n).getLast? ≠ some '0' := by
  intro hlast
  obtain ⟨init, hinit⟩ := List.getLast?_eq_some_iff.1 hlast
  have hmod := digitsValue_concat_mod init (show isDigit '0' = true by decide)
  rw [← hinit, digitsValue_naturalDigits] at hmod
  exact hn hmod

/-- Where no point is shown without need, a plain layout of digits that do not end in zero has none that is idle. -/
theorem plainText_layPlain {ds : List Char} (h : Leading ds) (hlast : ds.getLast? ≠ some '0') (whole : Int) :
    PlainText (Format.layPlain false ds whole) (digitsValue ds * 10 ^ (whole - ds.length)) := by
  rcases layPlain_cases h false whole with ⟨ws, fs, hpointed, hsame, hlay, hvalue⟩ | ⟨n, hn, hlay⟩
  · have htext : ws ++ '.' :: fs = ws ++ fractionText fs := by rw [fractionText, if_neg hpointed.fraction_ne_nil]
    rw [hlay, htext, ← hvalue]
    exact .intro ⟨hpointed.whole_digits, hpointed.whole_ne_nil, hpointed.no_idle_zero⟩ hpointed.fraction_digits
      (hsame ▸ hlast)
  · have hwhole : PlainText (ds ++ List.replicate n '0' ++ fractionText [])
        (pointedValue (ds ++ List.replicate n '0') []) :=
      .intro (h.append_zeros n).wholeText (by simp [AllDigits]) (by simp)
    have hvalue : pointedValue (ds ++ List.replicate n '0') [] = digitsValue ds * 10 ^ (n : Int) := by
      rw [pointedValue, List.append_nil, digitsValue_append_zeros, zpow_natCast]
      push_cast
      simp
    rw [hlay, hn, ← hvalue]
    exact hwhole

theorem plainText_zero : PlainText ['0'] 0 := by
  have hvalue : pointedValue ['0'] [] = 0 := by
    have hdigits : digitsValue (['0'] ++ []) = 0 := rfl
    rw [pointedValue, hdigits, Nat.cast_zero, zero_div]
  have hplain : PlainText (['0'] ++ fractionText []) (pointedValue ['0'] []) :=
    .intro (Json.wholeText_naturalDigits 0) (by simp [AllDigits]) (by simp)
  rwa [hvalue] at hplain

/-- A format that shows no point without need writes, in plain form, the sign of a double and the digits of its
briefest decimal. -/
theorem write_of_plain_briefest {f : Format} (hf : f.pointZero = false) (htie : f.tie = .up) {x : Binary64}
    (h : f.WritesPlain x.magnitude) : ∃ cs v, f.write x = signText x.negative ++ cs ∧ PlainText cs v ∧
      Briefest x.magnitude v := by
  by_cases hzero : x.magnitude = 0
  · refine ⟨['0'], 0, ?_, plainText_zero, hzero ▸ briefest_zero⟩
    rw [Format.write, if_pos hzero, hf]
    rfl
  · have hplain := h.resolve_left hzero
    have hpos := coefficient_pos hzero .up
    have hlast := coefficient_shortest hzero
    have hbrief := briefest_shortest hzero
    rw [htie] at hplain
    generalize hs : shortest .up x.magnitude = s at *
    refine ⟨Format.layPlain false (naturalDigits s.coefficient) (s.leadingPower + 1), s.value, ?_, ?_, hbrief⟩
    · rw [Format.write, if_neg hzero, hf, htie, hs]
      dsimp only
      rw [← Scaled.leadingPower, if_pos hplain]
      rfl
    · have htext := plainText_layPlain (leading_naturalDigits (n := s.coefficient) (by omega))
        (getLast?_naturalDigits hlast) (s.leadingPower + 1)
      have hexp : s.leadingPower + 1 - (naturalDigits s.coefficient).length = s.exponent := by
        rw [Scaled.leadingPower]
        omega
      rwa [digitsValue_naturalDigits, hexp] at htext

/-- The text that is displayed is the one that a double has. -/
theorem positionalText_iff {x : Extended} {cs : List Char} : PositionalText x cs ↔ x.display = String.ofList cs := by
  have hdisplay : PositionalText x x.display.toList := by
    cases x with
    | finite x =>
      have halways : Format.positional.WritesPlain x.magnitude := .inr rfl
      obtain ⟨cs, v, hwrite, hplain, hbrief⟩ := write_of_plain_briefest rfl rfl halways
      rw [Extended.display, String.toList_ofList, hwrite]
      exact .finite hplain hbrief
    | infinite negative =>
      have hinfinite := PositionalText.infinite negative
      cases negative <;> exact hinfinite
    | notANumber => exact .notANumber
  constructor
  · intro h
    rw [h.unique hdisplay, String.ofList_toList]
  · intro h
    rw [h, String.toList_ofList] at hdisplay
    exact hdisplay

end Decimal

end FaultInjection
