import FaultInjection.Error
import FaultInjection.Proofs.Duration.Contribution
import FaultInjection.Proofs.Text.Blank

/-!
# The durations that are accepted

`RowText` has the rows of components, each with what it adds, apart from any reader. A row can be
taken apart in one way only, which is the way of `splitComponent` (`rowText_iff`); so the sum of the
components is that of the row, `sumComponents_eq_ok_iff`. `parse_exact` puts this together with the
digits that stand for milliseconds.
-/

namespace FaultInjection.Duration

open Decimal Text

variable {cs rest number whole fraction unit : List Char} {n u : Nat} {ns ms : List Nat}

/-- The number of a component, with its digits before and behind the point. -/
inductive AmountText : List Char → List Char → List Char → Prop where
  | whole {whole : List Char} : AllDigits whole → whole ≠ [] → AmountText whole whole []
  | pointed {whole fraction : List Char} : AllDigits whole → AllDigits fraction →
      whole ++ fraction ≠ [] → AmountText (whole ++ '.' :: fraction) whole fraction

/-- A component, with what it adds to the duration. -/
inductive ComponentText : List Char → Nat → Prop where
  | intro {number whole fraction unit : List Char} {u : Nat} : AmountText number whole fraction →
      UnitText unit u → ComponentText (number ++ unit) (contribution whole fraction u)

/-- Components one after the other. -/
inductive RowText : List Char → List Nat → Prop where
  | nil : RowText [] []
  | cons {cs rest : List Char} {n : Nat} {ns : List Nat} : ComponentText cs n → RowText rest ns →
      RowText (cs ++ rest) (n :: ns)

/-- The characters at which a unit ends. -/
def endsUnit (c : Char) : Bool := isDigit c || c == '.'

theorem endsUnit_of_isDigit {c : Char} (h : isDigit c = true) : endsUnit c = true := by
  simp [endsUnit, h]

theorem UnitText.not_endsUnit (h : UnitText unit u) : ∀ c ∈ unit, endsUnit c = false := by
  have hall : (unit.all fun c => ! endsUnit c) = true := by cases h <;> decide
  simpa using hall

theorem UnitText.exists_cons (h : UnitText unit u) : ∃ c cs, unit = c :: cs ∧ endsUnit c = false := by
  cases h <;> exact ⟨_, _, rfl, by decide⟩

theorem AmountText.allDigits (h : AmountText number whole fraction) : AllDigits fraction := by
  cases h with
  | whole _ _ => exact fun _ hc => absurd hc (by simp)
  | pointed _ hf _ => exact hf

theorem AmountText.exists_cons (h : AmountText number whole fraction) :
    ∃ c cs, number = c :: cs ∧ endsUnit c = true := by
  have hdigit : ∀ {ds : List Char} (es : List Char), AllDigits ds → ds ≠ [] →
      ∃ c cs, ds ++ es = c :: cs ∧ endsUnit c = true := by
    intro ds es hd hn
    obtain ⟨c, ds, rfl⟩ := List.exists_cons_of_ne_nil hn
    exact ⟨c, ds ++ es, rfl, endsUnit_of_isDigit (hd c (by simp))⟩
  cases h with
  | whole hd hn => simpa using hdigit [] hd hn
  | @pointed _ fraction hw _ _ =>
    by_cases hn : whole = []
    · exact ⟨'.', fraction, by rw [hn]; rfl, by decide⟩
    · exact hdigit _ hw hn

theorem ComponentText.exists_cons (h : ComponentText cs n) : ∃ c ds, cs = c :: ds ∧ endsUnit c = true := by
  cases h with
  | intro hamount _ =>
    obtain ⟨c, ds, rfl, hc⟩ := hamount.exists_cons
    exact ⟨c, _, rfl, hc⟩

/-- What follows a component in a row begins with a number. -/
theorem RowText.head_endsUnit (h : RowText rest ns) : ∀ c ∈ rest.head?, endsUnit c = true := by
  cases h with
  | nil => simp
  | cons hcomponent _ =>
    obtain ⟨c, ds, rfl, hc⟩ := hcomponent.exists_cons
    simpa using hc

/-! ## Taking a row apart -/

theorem splitComponent_whole {ds : List Char} (hspan : spanDigits cs = (whole, ds))
    (hd : ds.head? ≠ some '.') : splitComponent cs =
      (⟨whole, [], ds.takeWhile (! endsUnit ·)⟩, ds.dropWhile (! endsUnit ·)) := by
  unfold splitComponent
  rw [hspan]
  dsimp only
  split
  · exact absurd rfl hd
  · rfl

theorem splitComponent_pointed {ds es : List Char} (hspan : spanDigits cs = (whole, '.' :: ds))
    (hfraction : spanDigits ds = (fraction, es)) : splitComponent cs =
      (⟨whole, fraction, es.takeWhile (! endsUnit ·)⟩, es.dropWhile (! endsUnit ·)) := by
  unfold splitComponent
  rw [hspan]
  show ((⟨whole, (spanDigits ds).1, (spanDigits ds).2.takeWhile (! endsUnit ·)⟩ : Component),
    (spanDigits ds).2.dropWhile (! endsUnit ·)) = _
  rw [hfraction]

/-- A unit ends where a number follows it. -/
theorem span_unit (hu : UnitText unit u) (hr : ∀ c ∈ rest.head?, endsUnit c = true) :
    (unit ++ rest).takeWhile (! endsUnit ·) = unit ∧ (unit ++ rest).dropWhile (! endsUnit ·) = rest := by
  have hall : ∀ c ∈ unit, (! endsUnit c) = true := fun c hc => by simp [hu.not_endsUnit c hc]
  rw [List.takeWhile_append_of_pos hall, List.dropWhile_append_of_pos hall]
  cases rest with
  | nil => simp
  | cons c rest => simp [hr c rfl]

/-- A component is found in front of what follows it in a row. -/
theorem splitComponent_append (hamount : AmountText number whole fraction) (hu : UnitText unit u)
    (hr : ∀ c ∈ rest.head?, endsUnit c = true) :
    splitComponent (number ++ unit ++ rest) = (⟨whole, fraction, unit⟩, rest) := by
  obtain ⟨htake, hdrop⟩ := span_unit hu hr
  obtain ⟨c, letters, hunit, hc⟩ := hu.exists_cons
  obtain ⟨hdigit, hpoint⟩ : isDigit c = false ∧ c ≠ '.' := by simpa [endsUnit] using hc
  -- The unit begins with a letter, which ends the digits in front of it.
  have hspan : ∀ {ds : List Char}, AllDigits ds → spanDigits (ds ++ (unit ++ rest)) = (ds, unit ++ rest) := by
    intro ds hd
    rw [hunit]
    exact spanDigits_append hd hdigit _
  cases hamount with
  | whole hw _ =>
    have hhead : (unit ++ rest).head? ≠ some '.' := by simpa [hunit] using hpoint
    rw [List.append_assoc, splitComponent_whole (hspan hw) hhead, htake, hdrop]
  | pointed hw hf _ =>
    rw [List.append_assoc, List.append_assoc, List.cons_append,
      splitComponent_pointed (spanDigits_append hw (by decide) _) (hspan hf), htake, hdrop]

/-- What a component adds, however great. -/
def Component.worth? (c : Component) : Option Nat :=
  if c.whole.isEmpty && c.fraction.isEmpty then none
  else (nanosPerUnit? c.unit).map (contribution c.whole c.fraction)

theorem Component.nanos?_eq {c : Component} (hf : AllDigits c.fraction) : c.nanos? = c.worth?.bind wide? := by
  unfold nanos? worth?
  split
  · rfl
  · cases hunit : nanosPerUnit? c.unit with
    | none => rfl
    | some u => exact stepwise?_eq hf (nanosPerUnit?_eq_some_iff.1 hunit) c.whole

theorem Component.worth?_of_text (hamount : AmountText number whole fraction) (hu : UnitText unit u) :
    Component.worth? ⟨whole, fraction, unit⟩ = some (contribution whole fraction u) := by
  have hdigits : (whole.isEmpty && fraction.isEmpty) = false := by
    cases hamount with
    | whole _ hn => simp [hn]
    | pointed _ _ hn => simpa using hn
  rw [worth?, hdigits, if_neg Bool.false_ne_true, nanosPerUnit?_eq_some_iff.2 hu, Option.map_some]

theorem spanDigits_eq {ds es : List Char} (h : spanDigits cs = (ds, es)) : AllDigits ds ∧ cs = ds ++ es := by
  obtain ⟨rfl, rfl⟩ := Prod.mk.inj h
  exact ⟨allDigits_takeWhile cs, List.takeWhile_append_dropWhile.symm⟩

/-- What is split off is a number, a unit and the rest, though not all of them need be there. -/
theorem exists_amount (cs : List Char) : ∃ number,
    cs = number ++ ((splitComponent cs).1.unit ++ (splitComponent cs).2) ∧
      ((splitComponent cs).1.whole ++ (splitComponent cs).1.fraction ≠ [] →
        AmountText number (splitComponent cs).1.whole (splitComponent cs).1.fraction) := by
  cases hspan : spanDigits cs with
  | mk whole rest =>
    obtain ⟨hwhole, hcs⟩ := spanDigits_eq hspan
    by_cases hpoint : rest.head? = some '.'
    · obtain ⟨ds, rfl⟩ := List.head?_eq_some_iff.1 hpoint
      cases hfraction : spanDigits ds with
      | mk fraction es =>
        obtain ⟨hdigits, hds⟩ := spanDigits_eq hfraction
        rw [splitComponent_pointed hspan hfraction]
        dsimp only
        refine ⟨whole ++ '.' :: fraction, ?_, .pointed hwhole hdigits⟩
        rw [List.takeWhile_append_dropWhile, List.append_assoc, List.cons_append, ← hds, ← hcs]
    · rw [splitComponent_whole hspan hpoint]
      dsimp only
      refine ⟨whole, ?_, fun hsome => .whole hwhole (by simpa using hsome)⟩
      rw [List.takeWhile_append_dropWhile, ← hcs]

theorem allDigits_fraction (cs : List Char) : AllDigits (splitComponent cs).1.fraction := by
  obtain ⟨number, -, hamount⟩ := exists_amount cs
  by_cases hnone : (splitComponent cs).1.whole ++ (splitComponent cs).1.fraction = []
  · rw [(List.append_eq_nil_iff.1 hnone).2]
    exact List.forall_mem_nil _
  · exact (hamount hnone).allDigits

/-- What is split off is a component in front of the rest, if it adds anything. -/
theorem componentText_of_worth? (h : (splitComponent cs).1.worth? = some n) :
    ∃ part, cs = part ++ (splitComponent cs).2 ∧ ComponentText part n := by
  obtain ⟨number, hcs, hamount⟩ := exists_amount cs
  obtain ⟨hdigits, hunit⟩ := Option.ite_none_left_eq_some.1 h
  obtain ⟨u, hu, rfl⟩ := Option.map_eq_some_iff.1 hunit
  have hsome : (splitComponent cs).1.whole ++ (splitComponent cs).1.fraction ≠ [] := by simpa using hdigits
  refine ⟨number ++ (splitComponent cs).1.unit, ?_, .intro (hamount hsome) (nanosPerUnit?_eq_some_iff.1 hu)⟩
  rw [List.append_assoc, ← hcs]

/-- The one way to take a row apart. -/
theorem rowText_iff (hne : cs ≠ []) : RowText cs ns ↔ ∃ n ms, ns = n :: ms ∧
    (splitComponent cs).1.worth? = some n ∧ RowText (splitComponent cs).2 ms := by
  constructor
  · intro h
    cases h with
    | nil => exact absurd rfl hne
    | cons hcomponent hrest =>
      cases hcomponent with
      | intro hamount hu =>
        rw [splitComponent_append hamount hu hrest.head_endsUnit]
        exact ⟨_, _, rfl, Component.worth?_of_text hamount hu, hrest⟩
  · rintro ⟨n, ms, rfl, hworth, hrest⟩
    obtain ⟨part, hcs, hpart⟩ := componentText_of_worth? hworth
    rw [hcs]
    exact .cons hpart hrest

theorem RowText.eq_nil (h : RowText cs []) : cs = [] := by
  cases h
  rfl

theorem rowText_nil_iff : RowText [] ns ↔ ns = [] := by
  constructor
  · intro h
    generalize hcs : ([] : List Char) = cs at h
    cases h with
    | nil => rfl
    | cons hcomponent _ =>
      obtain ⟨c, ds, rfl, -⟩ := hcomponent.exists_cons
      cases hcs
  · rintro rfl
    exact .nil

/-- A text is a row of components in one way at most. -/
theorem RowText.unique (h : RowText cs ns) (h' : RowText cs ms) : ns = ms := by
  induction ns generalizing cs ms with
  | nil =>
    cases h
    exact (rowText_nil_iff.1 h').symm
  | cons n ns ih =>
    have hne : cs ≠ [] := by
      rintro rfl
      exact List.cons_ne_nil n ns (rowText_nil_iff.1 h)
    obtain ⟨n', ns', he, hn, hrest⟩ := (rowText_iff hne).1 h
    obtain ⟨m, ms', rfl, hm, hrest'⟩ := (rowText_iff hne).1 h'
    obtain ⟨rfl, rfl⟩ := List.cons.inj he
    rw [ih hrest hrest', Option.some.inj (hn.symm.trans hm)]

/-! ## Reading a row -/

theorem Component.nanos?_eq_some_iff {c : Component} (hf : AllDigits c.fraction) :
    c.nanos? = some n ↔ c.worth? = some n ∧ n < wideBound := by
  rw [nanos?_eq hf, Option.bind_eq_some_iff]
  constructor
  · rintro ⟨m, hm, hwide⟩
    obtain ⟨hlt, hmn⟩ := Option.ite_none_right_eq_some.1 hwide
    obtain rfl := Option.some.inj hmn
    exact ⟨hm, hlt⟩
  · rintro ⟨hn, hlt⟩
    exact ⟨n, hn, wide?_of_lt hlt⟩

/-- A row comes to `n` on top of `total`, and `n` fits into a hundred and twenty-eight bits. -/
def AddsUp (cs : List Char) (total n : Nat) : Prop :=
  ∃ ns, RowText cs ns ∧ n = total + ns.sum ∧ n < wideBound

theorem addsUp_nil_iff {total : Nat} (htotal : total < wideBound) : AddsUp [] total n ↔ n = total := by
  constructor
  · rintro ⟨ns, hrow, hsum, -⟩
    obtain rfl := rowText_nil_iff.1 hrow
    exact hsum
  · rintro rfl
    exact ⟨[], .nil, rfl, htotal⟩

/-- The first component is added to the total before the others are. -/
theorem addsUp_iff (hne : cs ≠ []) {total : Nat} : AddsUp cs total n ↔
    ∃ nanos, (splitComponent cs).1.nanos? = some nanos ∧ AddsUp (splitComponent cs).2 (total + nanos) n := by
  constructor
  · rintro ⟨ns, hrow, hsum, hlt⟩
    obtain ⟨nanos, ms, rfl, hworth, hrest⟩ := (rowText_iff hne).1 hrow
    rw [List.sum_cons, ← Nat.add_assoc] at hsum
    have hnanos : nanos < wideBound := by omega
    exact ⟨nanos, (Component.nanos?_eq_some_iff (allDigits_fraction cs)).2 ⟨hworth, hnanos⟩, ms, hrest, hsum, hlt⟩
  · rintro ⟨nanos, hnanos, ms, hrest, hsum, hlt⟩
    have hrow : RowText cs (nanos :: ms) :=
      (rowText_iff hne).2 ⟨nanos, ms, rfl, ((Component.nanos?_eq_some_iff (allDigits_fraction cs)).1 hnanos).1, hrest⟩
    exact ⟨nanos :: ms, hrow, by rw [hsum, List.sum_cons, Nat.add_assoc], hlt⟩

theorem sumComponents_eq_ok_iff {text : String} {total : Nat} (htotal : total < wideBound) :
    sumComponents text total cs = .ok n ↔ AddsUp cs total n := by
  fun_induction sumComponents text total cs with
  | case1 total =>
    rw [addsUp_nil_iff htotal, Except.ok.injEq]
    exact eq_comm
  | case2 total cs hne hnone => simp [addsUp_iff hne, hnone]
  | case3 total cs hne nanos hnanos hlt ih => simp [addsUp_iff hne, hnanos, ih hlt]
  | case4 total cs hne nanos hnanos hover =>
    -- What is added later cannot bring the total back below the bound.
    have hnot : ¬ AddsUp (splitComponent cs).2 (total + nanos) n := by
      rintro ⟨ms, -, hsum, hlt⟩
      omega
    simp [addsUp_iff hne, hnanos, hnot]

/-- The fault of a row names the text that it was read from. -/
theorem fault_of_sumComponents {text : String} {total : Nat} {fault : DurationFault}
    (h : sumComponents text total cs = .error fault) :
    fault = .malformed text ∨ fault = .outOfRange text := by
  fun_induction sumComponents text total cs with
  | case1 => simp at h
  | case2 => exact .inl (Except.error.inj h).symm
  | case3 _ _ _ _ _ _ ih => exact ih h
  | case4 => exact .inr (Except.error.inj h).symm

/-! ## Reading a duration -/

variable {s : String} {d : Duration}

theorem lt_wordBound_iff : n < wordBound ↔ n ≤ 2 ^ 64 - 1 := by
  rw [wordBound]
  omega

/-- Digits and nothing else are milliseconds. -/
theorem parse_of_digits (hd : AllDigits (trim s.toList)) (hne : trim s.toList ≠ []) : parse s = .ok d ↔
    digitsValue (trim s.toList) ≤ 2 ^ 64 - 1 ∧ d.nanos = digitsValue (trim s.toList) * 10 ^ 6 := by
  rw [parse, if_neg hne, if_pos (allDigits_iff.1 hd), ← lt_wordBound_iff]
  obtain ⟨nanos⟩ := d
  split
  · next hlt =>
    simp only [Except.ok.injEq, Duration.mk.injEq, hlt, true_and]
    exact eq_comm
  · next hge => simp [hge]

/-- Anything else is a row of components. -/
theorem parse_of_row (hd : ¬ AllDigits (trim s.toList)) : parse s = .ok d ↔
    ∃ ns, RowText (trim s.toList) ns ∧ ns.sum ≤ 2 ^ 64 - 1 ∧ d.nanos = ns.sum := by
  have hne : trim s.toList ≠ [] := by
    intro hnil
    rw [hnil] at hd
    exact hd fun _ hc => absurd hc (by simp)
  have hread : ∀ n, sumComponents (String.ofList (trim s.toList)) 0 (trim s.toList) = .ok n ↔
      AddsUp (trim s.toList) 0 n := fun _ => sumComponents_eq_ok_iff (by decide)
  rw [parse, if_neg hne, if_neg (fun hall => hd (allDigits_iff.2 hall))]
  constructor
  · intro h
    split at h
    · cases h
    · next nanos hsum =>
      obtain ⟨ns, hrow, hnanos, -⟩ := (hread nanos).1 hsum
      rw [Nat.zero_add] at hnanos
      split at h
      · next hlt =>
        obtain rfl := Except.ok.inj h
        rw [hnanos] at hlt
        exact ⟨ns, hrow, lt_wordBound_iff.1 hlt, hnanos⟩
      · cases h
  · rintro ⟨ns, hrow, hle, hnanos⟩
    have hlt : ns.sum < wordBound := lt_wordBound_iff.2 hle
    have hwide : ns.sum < wideBound := hlt.trans (by decide)
    rw [(hread ns.sum).2 ⟨ns, hrow, (Nat.zero_add _).symm, hwide⟩]
    dsimp only
    rw [if_pos hlt, ← hnanos]

/-- A text that is no duration is blank, or the fault names what is between its blanks. -/
theorem fault_of_parse {fault : DurationFault} (h : parse s = .error fault) :
    (trim s.toList = [] ∧ fault = .empty) ∨ fault = .malformed (String.ofList (trim s.toList)) ∨
      fault = .outOfRange (String.ofList (trim s.toList)) := by
  unfold parse at h
  dsimp only at h
  split at h
  · next hnil => exact .inl ⟨hnil, (Except.error.inj h).symm⟩
  · refine .inr ?_
    split at h
    · split at h
      · cases h
      · exact .inr (Except.error.inj h).symm
    · split at h
      · next hsum =>
        obtain rfl := Except.error.inj h
        exact fault_of_sumComponents hsum
      · split at h
        · cases h
        · exact .inr (Except.error.inj h).symm

/-- The refusal of a text that is no duration. -/
theorem refusal_of_parse {fault : DurationFault} (h : parse s = .error fault) :
    fault.toInputError = .duration "empty duration" ∨
      fault.toInputError = .duration (String.ofList (trim s.toList)) ∨
      fault.toInputError = .duration (String.ofList (trim s.toList) ++ " is out of range") := by
  rcases fault_of_parse h with ⟨-, rfl⟩ | rfl | rfl
  · exact .inl rfl
  · exact .inr (.inl rfl)
  · exact .inr (.inr rfl)

/-- Nothing at all is no row either, so it makes no difference that it is looked for first. -/
theorem parse_of_not_digits (hnot : ¬ (AllDigits (trim s.toList) ∧ trim s.toList ≠ [])) : parse s = .ok d ↔
    ∃ ns ≠ [], RowText (trim s.toList) ns ∧ ns.sum ≤ 2 ^ 64 - 1 ∧ d.nanos = ns.sum := by
  by_cases hnil : trim s.toList = []
  · have hempty : parse s = .error .empty := by rw [parse, if_pos hnil]
    rw [hempty, hnil]
    constructor
    · intro h
      cases h
    · rintro ⟨ns, hne, hrow, -⟩
      exact absurd (rowText_nil_iff.1 hrow) hne
  · have hd : ¬ AllDigits (trim s.toList) := fun hd => hnot ⟨hd, hnil⟩
    rw [parse_of_row hd]
    constructor
    · rintro ⟨ns, hrow, hle, hnanos⟩
      have hne : ns ≠ [] := by
        rintro rfl
        exact hnil hrow.eq_nil
      exact ⟨ns, hne, hrow, hle, hnanos⟩
    · rintro ⟨ns, -, h⟩
      exact ⟨ns, h⟩

/-- What is read from a text as a duration. Digits alone are milliseconds; any other text has to be a row of
components, in the one way that it can be, and comes to their sum. Either number has to fit into
sixty-four bits, and no other limit refuses a text; a component is exact as `ExactContribution` says. -/
theorem parse_exact (s : String) :
    (AllDigits (trim s.toList) ∧ trim s.toList ≠ [] → ∀ d, parse s = .ok d ↔
      digitsValue (trim s.toList) ≤ 2 ^ 64 - 1 ∧ d.nanos = digitsValue (trim s.toList) * 10 ^ 6) ∧
    (¬ (AllDigits (trim s.toList) ∧ trim s.toList ≠ []) → ∀ d, parse s = .ok d ↔
      ∃ ns ≠ [], RowText (trim s.toList) ns ∧ ns.sum ≤ 2 ^ 64 - 1 ∧ d.nanos = ns.sum) ∧
    (∀ ns ms, RowText (trim s.toList) ns → RowText (trim s.toList) ms → ns = ms) ∧
    (∀ fault, parse s = .error fault → fault.toInputError = .duration "empty duration" ∨
      fault.toInputError = .duration (String.ofList (trim s.toList)) ∨
      fault.toInputError = .duration (String.ofList (trim s.toList) ++ " is out of range")) ∧
    (∀ number whole fraction unit u, AmountText number whole fraction → UnitText unit u →
      ExactContribution whole fraction u) := by
  refine ⟨?digits, ?row, ?unique, ?refusal, ?component⟩
  case digits =>
    intro ⟨hd, hne⟩ d
    exact parse_of_digits hd hne
  case row =>
    intro hnot d
    exact parse_of_not_digits hnot
  case unique =>
    intro ns ms hns hms
    exact hns.unique hms
  case refusal =>
    intro fault h
    exact refusal_of_parse h
  case component =>
    intro number whole fraction unit u hamount hu
    exact exactContribution hamount.allDigits hu whole

/-- A minute and a half, written with a fraction, and a hundred and twenty milliseconds. -/
theorem parse_exact_minuteAndHalf : parse " 1m30.5s" = .ok ⟨90500000000⟩ ∧ parse "120" = .ok ⟨120000000⟩ := by
  constructor
  · have htrim : trim " 1m30.5s".toList = ['1', 'm'] ++ (['3', '0', '.', '5', 's'] ++ []) := by decide +kernel
    have hone : AmountText ['1'] ['1'] [] := .whole (allDigits_iff.2 (by decide)) (by decide)
    have hthirty : AmountText (['3', '0'] ++ '.' :: ['5']) ['3', '0'] ['5'] :=
      .pointed (allDigits_iff.2 (by decide)) (allDigits_iff.2 (by decide)) (by decide)
    have hminute : ComponentText ['1', 'm'] 60000000000 := .intro hone .minute
    have hseconds : ComponentText ['3', '0', '.', '5', 's'] 30500000000 := .intro hthirty .second
    have hnot : ¬ (AllDigits (trim " 1m30.5s".toList) ∧ trim " 1m30.5s".toList ≠ []) := by
      rw [htrim, allDigits_iff]
      decide
    refine ((parse_exact " 1m30.5s").2.1 hnot ⟨90500000000⟩).2
      ⟨[60000000000, 30500000000], by decide, ?_, by decide, by decide⟩
    rw [htrim]
    exact .cons hminute (.cons hseconds .nil)
  · have htrim : trim "120".toList = ['1', '2', '0'] := by decide +kernel
    have hdigits : AllDigits (trim "120".toList) ∧ trim "120".toList ≠ [] := by
      rw [htrim, allDigits_iff]
      decide
    refine ((parse_exact "120").1 hdigits ⟨120000000⟩).2 ?_
    rw [htrim]
    decide

end FaultInjection.Duration
