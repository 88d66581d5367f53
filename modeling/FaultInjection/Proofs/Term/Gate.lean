import FaultInjection.Proofs.Result
import FaultInjection.Proofs.Term.Grammar
import FaultInjection.Term.Parser

/-!
# Reading percentages and counts

A gate is found by looking for its sign anywhere in the rest of the segment, so the sign may belong
to a string further on. Then what stands before it is no number, and the gate is absent:
`numericHead_eq_none`. `readGate_sound` and `readGate_complete` say that gates are read as `GateText`
has them, given that their numbers are: `readPercentage_eq_ok_iff` and `readCount_eq_ok_iff`.
-/

namespace FaultInjection

open Decimal Text

/-! ## The two kinds of number -/

theorem plain?_of_unsigned {cs : List Char} (hm : cs.head? ≠ some '-') (hp : cs.head? ≠ some '+') :
    Numeral.plain? cs = Numeral.unsigned? false cs := by
  unfold Numeral.plain?
  split
  · exact absurd rfl hm
  · exact absurd rfl hp
  · rfl

theorem plain?_eq_some_nil_iff {cs : List Char} {x : Numeral} :
    Numeral.plain? cs = some (x, []) ↔ ∃ sign number negative ds places, SignText sign negative ∧
      cs = sign ++ number ∧ PointedDigits number ds places ∧
        x = ⟨negative, digitsValue ds, -(places : Int)⟩ := by
  constructor
  · intro h
    unfold Numeral.plain? at h
    split at h
    all_goals obtain ⟨ds, places, hd, rfl⟩ := unsigned?_eq_some_nil_iff.1 h
    · exact ⟨['-'], _, _, ds, places, .minus, rfl, hd, rfl⟩
    · exact ⟨['+'], _, _, ds, places, .plus, rfl, hd, rfl⟩
    · exact ⟨[], _, _, ds, places, .none, rfl, hd, rfl⟩
  · rintro ⟨sign, number, negative, ds, places, hs, rfl, hd, rfl⟩
    have hread : Numeral.unsigned? negative number =
        some (⟨negative, digitsValue ds, -(places : Int)⟩, []) :=
      unsigned?_eq_some_nil_iff.2 ⟨ds, places, hd, rfl⟩
    cases hs with
    | none =>
      rw [List.nil_append, plain?_of_unsigned (hd.head?_ne (by decide) (by decide))
        (hd.head?_ne (by decide) (by decide)), hread]
    | plus => exact hread
    | minus => exact hread

/-- The magnitude of one hundred is worth one hundred. -/
theorem units_hundred : Binary64.hundred.units = inUnits 100 := by
  have hmag : Binary64.hundred.magnitude = magnitudeOf 1028 (100 * 2 ^ 46) := rfl
  have hpow : ∀ a b c, a + b = c → 2 ^ a * 2 ^ b = Nat.pow 2 c := by
    rintro a b c rfl
    exact (Nat.pow_add 2 a b).symm
  rw [Binary64.units, hmag, unitsOf_magnitudeOf (by decide) (.inr (by decide)), inUnits, Nat.mul_assoc,
    hpow 46 1028 1074 rfl]

theorem zero_lt_iff {p : Binary64} :
    Binary64.zero.lt p = true ↔ p.negative = false ∧ 0 < p.units := by
  have hpos : 0 < p.units ↔ 0 < p.magnitude := unitsOf_strictMono.lt_iff_lt (a := 0)
  rw [hpos, Binary64.lt, decide_eq_true_iff, Binary64.key, Binary64.key]
  cases p.negative <;> simp [Binary64.zero, Binary64.signedZero]

theorem not_hundred_lt_iff {p : Binary64} (hp : p.negative = false) :
    Binary64.hundred.lt p = false ↔ p.units ≤ inUnits 100 := by
  rw [← units_hundred, Binary64.units, Binary64.units, unitsOf_strictMono.le_iff_le, Binary64.lt,
    decide_eq_false_iff_not, Binary64.key, Binary64.key, hp]
  simp [Binary64.hundred]

theorem readPercentage_eq_ok_iff {cs : List Char} {p : Binary64} :
    readPercentage cs = .ok p ↔ PercentageText cs p := by
  constructor
  · intro h
    unfold readPercentage at h
    split at h
    · next x hx =>
      obtain ⟨sign, number, negative, ds, places, hs, rfl, hd, rfl⟩ := plain?_eq_some_nil_iff.1 hx
      split at h
      · next q hq =>
        split at h
        · next hrange =>
          obtain rfl := Except.ok.inj h
          obtain ⟨hn, hr⟩ := toBinary64?_eq_some_iff.1 hq
          rw [Bool.and_eq_true, Bool.not_eq_true', zero_lt_iff] at hrange
          exact .intro hs hd ⟨hn, hr⟩ hrange.1.1 hrange.1.2 ((not_hundred_lt_iff hrange.1.1).1 hrange.2)
        · simp at h
      · simp at h
    · simp at h
  · intro h
    cases h with
    | intro hs hd hr hn h0 h100 =>
      have hrange : (Binary64.zero.lt p && !Binary64.hundred.lt p) = true := by
        rw [Bool.and_eq_true, Bool.not_eq_true', zero_lt_iff]
        exact ⟨⟨hn, h0⟩, (not_hundred_lt_iff hn).2 h100⟩
      rw [readPercentage, plain?_eq_some_nil_iff.2 ⟨_, _, _, _, _, hs, rfl, hd, rfl⟩]
      dsimp only
      rw [toBinary64?_eq_some_iff.2 ⟨hr.1, hr.2⟩]
      exact if_pos hrange

theorem unsigned?_of_digits {bound : Nat} {cs : List Char} (h : cs.head? ≠ some '+') :
    unsigned? bound cs = (natural? cs).filter (· < bound) := by
  unfold unsigned?
  split
  · exact absurd rfl h
  · rfl

theorem unsigned?_eq_some_iff {bound : Nat} {cs : List Char} {n : Nat} :
    unsigned? bound cs = some n ↔ ∃ plus digits, (plus = [] ∨ plus = ['+']) ∧ cs = plus ++ digits ∧
      AllDigits digits ∧ digits ≠ [] ∧ digitsValue digits = n ∧ n < bound := by
  have hfilter : ∀ {ds}, (natural? ds).filter (· < bound) = some n ↔
      AllDigits ds ∧ ds ≠ [] ∧ digitsValue ds = n ∧ n < bound := by
    intro ds
    rw [Option.filter_eq_some_iff, natural?_eq_some_iff, decide_eq_true_iff, and_assoc, and_assoc]
  constructor
  · intro h
    by_cases hp : cs.head? = some '+'
    · obtain ⟨ds, rfl⟩ := List.head?_eq_some_iff.1 hp
      exact ⟨['+'], ds, .inr rfl, rfl, hfilter.1 h⟩
    · rw [unsigned?_of_digits hp] at h
      exact ⟨[], cs, .inl rfl, rfl, hfilter.1 h⟩
  · rintro ⟨plus, digits, hplus, rfl, hd⟩
    rcases hplus with rfl | rfl
    · have hp : digits.head? ≠ some '+' := fun h => absurd (hd.1 '+' (List.mem_of_mem_head? h)) (by decide)
      rw [List.nil_append, unsigned?_of_digits hp]
      exact hfilter.2 hd
    · exact hfilter.2 hd

theorem readCount_eq_ok_iff {cs : List Char} {n : Nat} : readCount cs = .ok n ↔ CountText cs n := by
  constructor
  · intro h
    unfold readCount at h
    split at h
    · next m hm =>
      split at h
      · simp at h
      · next hpos =>
        obtain rfl := Except.ok.inj h
        obtain ⟨plus, digits, hplus, rfl, hd, hn, rfl, hlt⟩ := unsigned?_eq_some_iff.1 hm
        exact .intro hplus hd hn (Nat.pos_of_ne_zero hpos) (Nat.le_sub_one_of_lt hlt)
    · simp at h
  · intro h
    cases h with
    | intro hplus hd hn hpos hle =>
      have hlt : digitsValue _ < wordBound := Nat.lt_of_le_sub_one (by decide) hle
      rw [readCount, unsigned?_eq_some_iff.2 ⟨_, _, hplus, rfl, hd, hn, rfl, hlt⟩]
      exact if_neg (Nat.ne_of_gt hpos)

theorem isNumeric_of_isDigit {c : Char} (h : isDigit c = true) : isNumeric c = true := by
  simp [isNumeric, h]

theorem isBlank_of_isNumeric {c : Char} (h : isNumeric c = true) : isBlank c = false := by
  simp only [isNumeric, Bool.or_eq_true, beq_iff_eq] at h
  rcases h with ((h | rfl) | rfl) | rfl
  · exact isBlank_of_isDigit h
  all_goals decide

theorem PercentageText.isNumeric {cs : List Char} {p : Binary64} (h : PercentageText cs p) :
    cs ≠ [] ∧ ∀ c ∈ cs, isNumeric c = true := by
  cases h with
  | @intro sign number _ _ _ _ hs hd =>
    have hsign : sign.all FaultInjection.isNumeric = true := by cases hs <;> decide
    refine ⟨by simp [hd.ne_nil], fun c hc => ?_⟩
    refine (List.mem_append.1 hc).elim (List.all_eq_true.1 hsign c) fun hc => ?_
    rcases hd.digit_or_point c hc with hc | rfl
    · exact isNumeric_of_isDigit hc
    · decide

theorem CountText.isNumeric {cs : List Char} {n : Nat} (h : CountText cs n) :
    cs ≠ [] ∧ ∀ c ∈ cs, isNumeric c = true := by
  cases h with
  | @intro plus digits hplus hd hn =>
    have hplus : plus.all FaultInjection.isNumeric = true := by rcases hplus with rfl | rfl <;> decide
    refine ⟨by simp [hn], fun c hc => ?_⟩
    exact (List.mem_append.1 hc).elim (List.all_eq_true.1 hplus c) fun hc => isNumeric_of_isDigit (hd c hc)

/-! ## Finding the number before a sign -/

theorem takeWhile_ne_append {d : Char} {as : List Char} (h : d ∉ as) (cs : List Char) :
    (as ++ cs).takeWhile (· != d) = as ++ cs.takeWhile (· != d) :=
  List.takeWhile_append_of_pos fun c hc => by
    simpa using fun he : c = d => h (he ▸ hc)

theorem dropWhile_ne_append {d : Char} {as : List Char} (h : d ∉ as) (cs : List Char) :
    (as ++ cs).dropWhile (· != d) = cs.dropWhile (· != d) :=
  List.dropWhile_append_of_pos fun c hc => by
    simpa using fun he : c = d => h (he ▸ hc)

/-- There is no number before a sign that comes behind some other character. -/
theorem numericHead_eq_none {d c : Char} {as : List Char} (has : d ∉ as) (hcd : c ≠ d)
    (hc : isNumeric c = false) (hb : isBlank c = false) (bs : List Char) :
    numericHead d (as ++ c :: bs) = none := by
  unfold numericHead
  split
  · rfl
  · refine if_neg fun h => ?_
    have hmem : c ∈ trim ((as ++ c :: bs).takeWhile (· != d)) := by
      refine mem_trim hb ?_
      rw [takeWhile_ne_append has, List.takeWhile_cons_of_pos (by simpa using hcd)]
      simp
    have hnum := List.all_eq_true.1 h.2 c hmem
    rw [hc] at hnum
    exact Bool.false_ne_true hnum

theorem exists_of_numericHead {d : Char} {cs head after : List Char}
    (h : numericHead d cs = some (head, after)) : head ≠ [] ∧ ∃ before between, Blanks before ∧
      Blanks between ∧ cs = before ++ (head ++ between ++ d :: after) := by
  unfold numericHead at h
  split at h
  · simp at h
  · next c rest hrest =>
    obtain ⟨⟨hne, -⟩, h⟩ := Option.ite_none_right_eq_some.1 h
    obtain ⟨rfl, rfl⟩ := Prod.mk.inj (Option.some.inj h)
    obtain ⟨before, between, hb, hw, hcs⟩ := exists_trim (cs.takeWhile (· != d))
    have hc : c = d := by
      have h1 := List.head?_dropWhile_not (· != d) cs
      rw [hrest] at h1
      simpa using h1
    have hjoin : cs.takeWhile (· != d) ++ cs.dropWhile (· != d) = cs := List.takeWhile_append_dropWhile
    refine ⟨hne, before, between, hb, hw, ?_⟩
    conv_lhs => rw [← hjoin, hrest, hc, hcs]
    simp

theorem numericHead_of_number {d : Char} {number between : List Char} (hne : number ≠ [])
    (hnum : ∀ c ∈ number, isNumeric c = true) (hb : Blanks between) (hd : isNumeric d = false)
    (hdb : isBlank d = false) (after : List Char) :
    numericHead d (number ++ between ++ d :: after) = some (number, after) := by
  have hmem : d ∉ number ++ between := by
    intro hm
    rcases List.mem_append.1 hm with hm | hm
    · simp [hnum d hm] at hd
    · simp [hb d hm] at hdb
  have htight : Tight number := tight_of_forall fun c hc => isBlank_of_isNumeric (hnum c hc)
  have htrim : trim (number ++ between) = number := by
    have := trim_surround_of_tight .nil hb htight
    simpa using this
  have hdrop : (d :: after).dropWhile (· != d) = d :: after := List.dropWhile_cons_of_neg (by simp)
  have htake : (d :: after).takeWhile (· != d) = [] := List.takeWhile_cons_of_neg (by simp)
  rw [numericHead, dropWhile_ne_append hmem, takeWhile_ne_append hmem, hdrop, htake, List.append_nil]
  dsimp only
  rw [htrim]
  exact if_pos ⟨hne, List.all_eq_true.2 hnum⟩

/-! ## Gates -/

section

variable {α : Type} {d : Char} {read : List Char → Except TermFault α} {P : List Char → α → Prop}

theorem readGate_sound (hread : ∀ {cs x}, read cs = .ok x → P cs x) {cs rest : List Char}
    {o : Option α} (ht : StartsTight cs) (h : readGate d read cs = .ok (o, rest)) :
    ∃ gate, GateText d P gate o ∧ cs = gate ++ rest ∧ StartsTight rest := by
  unfold readGate at h
  split at h
  · obtain ⟨rfl, rfl⟩ := Prod.mk.inj (Except.ok.inj h)
    exact ⟨[], .absent, rfl, ht⟩
  · next head after hhead =>
    obtain ⟨x, hx, h⟩ := map_eq_ok_iff.1 h
    obtain ⟨rfl, rfl⟩ := Prod.mk.inj h
    obtain ⟨-, before, between, hb, hw, rfl⟩ := exists_of_numericHead hhead
    obtain rfl := eq_nil_of_startsTight ht hb
    obtain ⟨blanks, hblanks, hafter⟩ := exists_trimStart after
    refine ⟨head ++ between ++ d :: blanks, .given (hread hx) hw hblanks, ?_, startsTight_trimStart after⟩
    conv_lhs => rw [hafter]
    simp

theorem readGate_complete {gate rest : List Char} {o : Option α} (h : GateText d P gate o)
    (hread : ∀ {cs x}, P cs x → read cs = .ok x)
    (hnum : ∀ {cs x}, P cs x → cs ≠ [] ∧ ∀ c ∈ cs, isNumeric c = true) (hd : isNumeric d = false)
    (hdb : isBlank d = false) (ht : StartsTight rest) (hnone : o = none → numericHead d rest = none) :
    readGate d read (gate ++ rest) = .ok (o, rest) := by
  cases h with
  | absent => rw [List.nil_append, readGate, hnone rfl]
  | given hx hb ha =>
    rw [List.append_assoc, List.cons_append, readGate,
      numericHead_of_number (hnum hx).1 (hnum hx).2 hb hd hdb]
    dsimp only
    rw [hread hx, trimStart_append ha, trimStart_of_startsTight ht]
    rfl

end

end FaultInjection
