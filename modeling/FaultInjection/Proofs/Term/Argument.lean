import FaultInjection.Proofs.Duration
import FaultInjection.Proofs.Result
import FaultInjection.Proofs.Term.Grammar
import FaultInjection.Term.Parser

/-!
# Reading arguments

What stands between the parentheses of an action is read as its grammar says, provided that it is
tight: `readString_eq_ok_iff`, `readLiteral_eq_ok_iff` and `readPause_eq_ok_iff`. Trimming brings any
argument into that form.
-/

namespace FaultInjection

open Decimal Text

/-! ## Strings -/

theorem unescape?_eq_some_iff {e c : Char} : unescape? e = some c ↔ (e, c) ∈ escapes := by
  constructor
  · intro h
    unfold unescape? at h
    split at h
    case h_6 => simp at h
    all_goals
      obtain rfl := Option.some.inj h
      decide
  · intro h
    have hall : ∀ p ∈ escapes, unescape? p.1 = some p.2 := by decide
    exact hall _ h

theorem readQuoted_plain {c : Char} (hq : c ≠ '"') (hb : c ≠ '\\') (cs : List Char) :
    readQuoted (c :: cs) = (readQuoted cs).map fun (value, after) => (c :: value, after) := by
  rw [readQuoted] <;> simp_all

/-- A string is read up to the quote that ends its body. -/
theorem readQuoted_eq_ok_iff {cs value after : List Char} :
    readQuoted cs = .ok (value, after) ↔ ∃ body, QuotedBody body value ∧ cs = body ++ '"' :: after := by
  constructor
  · intro h
    fun_induction readQuoted cs generalizing value with
    | case1 => simp at h
    | case2 => simp at h
    | case3 rest =>
      obtain ⟨rfl, rfl⟩ := Prod.mk.inj (Except.ok.inj h)
      exact ⟨[], .nil, rfl⟩
    | case4 => simp at h
    | case5 e rest c hc ih =>
      obtain ⟨⟨v, a⟩, hread, heq⟩ := map_eq_ok_iff.1 h
      obtain ⟨rfl, rfl⟩ := Prod.mk.inj heq
      obtain ⟨body, hbody, rfl⟩ := ih hread
      exact ⟨'\\' :: e :: body, .escape (unescape?_eq_some_iff.1 hc) hbody, rfl⟩
    | case6 c rest hend hq hb ih =>
      obtain ⟨⟨v, a⟩, hread, heq⟩ := map_eq_ok_iff.1 h
      obtain ⟨rfl, rfl⟩ := Prod.mk.inj heq
      obtain ⟨body, hbody, rfl⟩ := ih hread
      refine ⟨c :: body, .plain ?_ ?_ hbody, rfl⟩
      · simpa using hq
      · rintro rfl
        cases body <;> simp_all
  · rintro ⟨body, hbody, rfl⟩
    induction hbody with
    | nil => rfl
    | plain hq hb _ ih => rw [List.cons_append, readQuoted_plain hq hb, ih, Except.map]
    | escape he _ ih =>
      rw [List.cons_append, List.cons_append, readQuoted, unescape?_eq_some_iff.2 he]
      dsimp only
      rw [ih, Except.map]

theorem readString_eq_ok_iff {cs : List Char} {s : String} (ht : Tight cs) :
    readString cs = .ok s ↔ StringText cs s := by
  constructor
  · intro h
    unfold readString at h
    split at h
    · next body =>
      split at h
      · simp at h
      · next value after hread =>
        obtain ⟨inner, hinner, rfl⟩ := readQuoted_eq_ok_iff.1 hread
        split at h
        · next hafter =>
          obtain rfl := Except.ok.inj h
          have hcs : '"' :: (inner ++ '"' :: after) = '"' :: inner ++ ['"'] ++ after := by simp
          have htail := ht.2
          rw [hcs] at htail
          obtain rfl := eq_nil_of_endsTight htail (trim_eq_nil_iff.1 hafter)
          exact .intro hinner
        · simp at h
    · simp at h
  · intro h
    cases h with
    | @intro body value hbody =>
      have hread : readQuoted (body ++ ['"']) = .ok (value, []) :=
        readQuoted_eq_ok_iff.2 ⟨body, hbody, rfl⟩
      rw [List.cons_append, readString, hread]
      rfl

/-! ## Numbers and literals -/

theorem rounds_iff {negative : Bool} {ds : List Char} {places : Nat} {x : Binary64} :
    Numeral.toBinary64? ⟨negative, digitsValue ds, -(places : Int)⟩ = some x ↔
      Rounds negative ds places x :=
  toBinary64?_eq_some_iff.trans ⟨fun h => ⟨h.1, h.2⟩, fun h => ⟨h.1, h.2⟩⟩

theorem not_mem_of_allDigits {c : Char} (hc : isDigit c = false) {cs : List Char} (h : AllDigits cs) :
    c ∉ cs := by
  intro hm
  rw [h c hm] at hc
  exact Bool.noConfusion hc

theorem head?_any_isDigit {cs : List Char} (h : AllDigits cs) (hn : cs ≠ []) (rest : List Char) :
    (cs ++ rest).head?.any isDigit = true := by
  obtain ⟨c, cs, rfl⟩ := List.exists_cons_of_ne_nil hn
  simpa using h c (by simp)

/-- How digits without a point are read. -/
theorem readNumber?_of_allDigits {negative : Bool} {cs : List Char} (h : AllDigits cs) (hn : cs ≠ []) :
    readNumber? negative cs =
      if negative then
        (if digitsValue cs ≤ signedBound then some (.integer (-(digitsValue cs : Int))) else none)
      else if digitsValue cs < signedBound then some (.integer (digitsValue cs)) else none := by
  have hhead := head?_any_isDigit h hn []
  rw [List.append_nil] at hhead
  have hall : cs.all (fun c => isDigit c || c == '.') = true :=
    List.all_eq_true.2 fun c hc => by simp [h c hc]
  have hpoint : ¬ cs.contains '.' = true :=
    fun hc => not_mem_of_allDigits (by decide) h (List.contains_iff_mem.1 hc)
  rw [readNumber?, hhead, hall, Bool.and_self, if_pos rfl, if_neg hpoint]

/-- How digits with a point among them are read. -/
theorem readNumber?_of_pointed {negative : Bool} {whole fraction : List Char} (hw : AllDigits whole)
    (hn : whole ≠ []) (hf : AllDigits fraction) : readNumber? negative (whole ++ '.' :: fraction) =
      (Numeral.toBinary64? ⟨negative, digitsValue (whole ++ fraction), -(fraction.length : Int)⟩).map .float := by
  have hhead := head?_any_isDigit hw hn ('.' :: fraction)
  have hall : (whole ++ '.' :: fraction).all (fun c => isDigit c || c == '.') = true := by
    simp only [List.all_append, List.all_cons, Bool.and_eq_true, List.all_eq_true]
    exact ⟨fun c hc => by simp [hw c hc], by simp, fun c hc => by simp [hf c hc]⟩
  have hread : Numeral.unsigned? negative (whole ++ '.' :: fraction) =
      some (⟨negative, digitsValue (whole ++ fraction), -(fraction.length : Int)⟩, []) :=
    unsigned?_eq_some_nil_iff.2 ⟨_, _, .pointed hw hf (by simp [hn]), rfl⟩
  rw [readNumber?, hhead, hall, Bool.and_self, if_pos rfl, if_pos (by simp), hread]

/-- What is read as a number is digits, with or without a point behind the first. -/
theorem digits_of_readNumber? {negative : Bool} {cs : List Char} {l : Literal}
    (h : readNumber? negative cs = some l) : (AllDigits cs ∧ cs ≠ []) ∨
      ∃ whole fraction, AllDigits whole ∧ whole ≠ [] ∧ AllDigits fraction ∧ cs = whole ++ '.' :: fraction := by
  unfold readNumber? at h
  obtain ⟨hshape, h⟩ := Option.ite_none_right_eq_some.1 h
  obtain ⟨hhead, hall⟩ := Bool.and_eq_true_iff.1 hshape
  split at h
  · next hpoint =>
    split at h
    · next x hread =>
      obtain ⟨ds, places, hds, -⟩ := unsigned?_eq_some_nil_iff.1 hread
      cases hds with
      | whole hd _ => exact absurd (List.contains_iff_mem.1 hpoint) (not_mem_of_allDigits (by decide) hd)
      | @pointed whole fraction hw hf _ =>
        refine .inr ⟨whole, fraction, hw, ?_, hf, rfl⟩
        rintro rfl
        have hdot : isDigit '.' = false := by decide
        simp [hdot] at hhead
    · simp at h
  · next hpoint =>
    refine .inl ⟨fun c hc => ?_, ?_⟩
    · have hchar := List.all_eq_true.1 hall c hc
      have hne : c ≠ '.' := by
        rintro rfl
        exact hpoint (List.contains_iff_mem.2 hc)
      simpa [hne] using hchar
    · rintro rfl
      simp at hhead

theorem readNumber?_eq_some_iff {negative : Bool} {cs : List Char} {l : Literal} :
    readNumber? negative cs = some l ↔ NumberText negative cs l := by
  constructor
  · intro h
    rcases digits_of_readNumber? h with ⟨hd, hn⟩ | ⟨whole, fraction, hw, hn, hf, rfl⟩
    · rw [readNumber?_of_allDigits hd hn] at h
      cases negative with
      | true =>
        obtain ⟨hle, h⟩ := Option.ite_none_right_eq_some.1 h
        obtain rfl := Option.some.inj h
        exact .negative hd hn hle
      | false =>
        obtain ⟨hlt, h⟩ := Option.ite_none_right_eq_some.1 h
        obtain rfl := Option.some.inj h
        exact .positive hd hn (Nat.le_sub_one_of_lt hlt)
    · rw [readNumber?_of_pointed hw hn hf] at h
      obtain ⟨x, hx, rfl⟩ := Option.map_eq_some_iff.1 h
      exact .float hw hn hf (rounds_iff.1 hx)
  · intro h
    cases h with
    | positive hd hn hle =>
      have hlt : digitsValue cs < signedBound := by
        rw [signedBound_eq]
        exact Nat.lt_of_le_sub_one (by decide) hle
      rw [readNumber?_of_allDigits hd hn, if_neg Bool.false_ne_true, if_pos hlt]
    | negative hd hn hle =>
      have hle' : digitsValue cs ≤ signedBound := hle
      rw [readNumber?_of_allDigits hd hn, if_pos rfl, if_pos hle']
    | float hw hn hf hx =>
      rw [readNumber?_of_pointed hw hn hf, rounds_iff.2 hx]
      rfl

theorem NumberText.exists_digit {negative : Bool} {cs : List Char} {l : Literal}
    (h : NumberText negative cs l) : ∃ c ds, isDigit c = true ∧ cs = c :: ds := by
  have hfirst : ∀ {ds : List Char}, AllDigits ds → ds ≠ [] → ∀ rest,
      ∃ c es, isDigit c = true ∧ ds ++ rest = c :: es := by
    intro ds hd hn rest
    obtain ⟨c, ds, rfl⟩ := List.exists_cons_of_ne_nil hn
    exact ⟨c, ds ++ rest, hd c (by simp), rfl⟩
  cases h with
  | positive hd hn => simpa using hfirst hd hn []
  | negative hd hn => simpa using hfirst hd hn []
  | float hw hn => exact hfirst hw hn _

theorem readLiteral_of_quote {cs : List Char} (hq : cs.head? = some '"') :
    readLiteral cs = (readString cs).map .string := by
  unfold readLiteral
  exact if_pos hq

/-- What is neither a string nor a truth value is read as a number. -/
theorem readLiteral_of_number {cs : List Char} (hq : cs.head? ≠ some '"') (ht : cs ≠ "true".toList)
    (hf : cs ≠ "false".toList) {l : Literal} : readLiteral cs = .ok l ↔
      (∃ ds, cs = '-' :: ds ∧ readNumber? true ds = some l) ∨
        (cs.head? ≠ some '-' ∧ readNumber? false cs = some l) := by
  unfold readLiteral
  rw [if_neg hq, if_neg ht, if_neg hf]
  by_cases hhead : cs.head? = some '-'
  · obtain ⟨ds, rfl⟩ := List.head?_eq_some_iff.1 hhead
    cases hread : readNumber? true ds <;> simp [hread]
  · have hne : ∀ ds, cs ≠ '-' :: ds := by
      rintro ds rfl
      exact hhead rfl
    split
    · next l' hl =>
      split at hl
      · exact absurd rfl (hne _)
      · simp [hl, hhead, hne]
    · next hl =>
      split at hl
      · exact absurd rfl (hne _)
      · simp [hl, hhead, hne]

theorem readLiteral_eq_ok_iff {cs : List Char} {l : Literal} (ht : Tight cs) :
    readLiteral cs = .ok l ↔ LiteralText cs l := by
  constructor
  · intro h
    by_cases hq : cs.head? = some '"'
    · rw [readLiteral_of_quote hq] at h
      obtain ⟨s, hs, rfl⟩ := map_eq_ok_iff.1 h
      exact .string ((readString_eq_ok_iff ht).1 hs)
    by_cases htrue : cs = "true".toList
    · rw [htrue] at h ⊢
      obtain rfl := Except.ok.inj h
      exact .yes
    by_cases hfalse : cs = "false".toList
    · rw [hfalse] at h ⊢
      obtain rfl := Except.ok.inj h
      exact .no
    obtain ⟨ds, rfl, hn⟩ | ⟨-, hn⟩ := (readLiteral_of_number hq htrue hfalse).1 h
    · exact .minus (readNumber?_eq_some_iff.1 hn)
    · exact .number (readNumber?_eq_some_iff.1 hn)
  · intro h
    cases h with
    | yes => rfl
    | no => rfl
    | number hn =>
      obtain ⟨c, ds, hc, rfl⟩ := hn.exists_digit
      have hne : ∀ d, isDigit d = false → c ≠ d := by
        rintro d hd rfl
        exact Bool.false_ne_true (hd.symm.trans hc)
      refine (readLiteral_of_number ?_ ?_ ?_).2 (.inr ⟨?_, readNumber?_eq_some_iff.2 hn⟩)
      · simpa using hne '"' (by decide)
      · exact fun he => hne 't' (by decide) (List.cons.inj he).1
      · exact fun he => hne 'f' (by decide) (List.cons.inj he).1
      · simpa using hne '-' (by decide)
    | @minus ds _ hn =>
      have hread := readNumber?_eq_some_iff.2 hn
      exact (readLiteral_of_number (by simp) (by simp) (by simp)).2 (.inl ⟨ds, rfl, hread⟩)
    | string hs =>
      have hread := (readString_eq_ok_iff ht).2 hs
      cases hs with
      | intro hbody => rw [readLiteral_of_quote rfl, hread, Except.map]

/-! ## Pauses -/

theorem readPause_of_quote {cs : List Char} (hq : cs.head? = some '"') {d : Duration} :
    readPause cs = .ok d ↔ ∃ s, readString cs = .ok s ∧ Duration.parse s = .ok d := by
  unfold readPause
  rw [if_pos hq]
  cases readString cs with
  | error e => simp
  | ok s => simp [mapError_eq_ok_iff]

theorem readPause_of_bare {cs : List Char} (hq : cs.head? ≠ some '"') {d : Duration} :
    readPause cs = .ok d ↔ Duration.parse (String.ofList cs) = .ok d := by
  unfold readPause
  rw [if_neg hq]
  exact mapError_eq_ok_iff

theorem readPause_eq_ok_iff {cs : List Char} {d : Duration} (ht : Tight cs) :
    readPause cs = .ok d ↔ PauseText cs d := by
  constructor
  · intro h
    by_cases hq : cs.head? = some '"'
    · obtain ⟨s, hs, hd⟩ := (readPause_of_quote hq).1 h
      exact .quoted ((readString_eq_ok_iff ht).1 hs) hd
    · exact .bare hq ((readPause_of_bare hq).1 h)
  · intro h
    cases h with
    | bare hq hd => exact (readPause_of_bare hq).2 hd
    | quoted hs hd =>
      have hread := (readString_eq_ok_iff ht).2 hs
      cases hs with
      | intro hbody => exact (readPause_of_quote rfl).2 ⟨_, hread, hd⟩

end FaultInjection
