import FaultInjection.Proofs.Decimal.Format
import FaultInjection.Proofs.Term.Escaping

/-!
# Displayed literals as terms

A literal is displayed in a notation of its own. Where that is the notation of terms as well, a term that
returns the displayed text returns the literal. It is not for a float with a power of ten, and for a string
with a character that is shown by its code: such a term is refused, and never taken for another value. This is
`display_reads_back`; `parse_returning` says how any such term is read.
-/

namespace FaultInjection

open Decimal Text

/-! ## A term that returns a text -/

/-- The term that returns what stands in the parentheses. -/
def returning (inner : String) : String := "return(" ++ inner ++ ")"

theorem toList_returning (inner : String) :
    (returning inner).toList = "return".toList ++ '(' :: (inner.toList ++ [')']) := by
  simp [returning]

theorem readAction_returning {inner : List Char} (ht : Tight inner) (hn : inner ≠ []) :
    readAction ("return".toList ++ '(' :: (inner ++ [')'])) = (readLiteral inner).map fun l => .ret (some l) := by
  have hword : ∀ c ∈ "return".toList, isNameLetter c = true := List.all_eq_true.1 (by decide)
  have htake : ("return".toList ++ '(' :: (inner ++ [')'])).takeWhile isNameLetter = "return".toList := by
    rw [List.takeWhile_append_of_pos hword, List.takeWhile_cons_of_neg (by decide), List.append_nil]
  have hdrop : ("return".toList ++ '(' :: (inner ++ [')'])).dropWhile isNameLetter = '(' :: (inner ++ [')']) := by
    rw [List.dropWhile_append_of_pos hword, List.dropWhile_cons_of_neg (by decide)]
  have hargument : readArgument (trimStart ('(' :: (inner ++ [')']))) = .ok (some inner) := by
    rw [trimStart_of_startsTight (startsTight_cons (by decide) _)]
    exact readArgument_eq_some_iff.2 ⟨[], .nil, rfl⟩
  unfold readAction
  rw [htake, hdrop, hargument]
  obtain ⟨c, cs, rfl⟩ := List.exists_cons_of_ne_nil hn
  simp only [Option.map_some, trim_of_tight ht]
  rfl

/-- Such a term is read as its text in the parentheses is, if that is in one piece. -/
theorem parse_returning {inner : String} (hs : Sealed Delimits inner.toList) (ht : Tight inner.toList)
    (hn : inner.toList ≠ []) : Term.parse (returning inner) =
      (readLiteral inner.toList).map fun l => ⟨returning inner, [⟨none, none, .ret (some l)⟩]⟩ := by
  have hletter : ∀ d, d ≠ 'r' → numericHead d (returning inner).toList = none := by
    intro d hd
    have hnone := numericHead_eq_none List.not_mem_nil hd.symm (by decide) (by decide)
      ("eturn".toList ++ '(' :: (inner.toList ++ [')']))
    rw [toList_returning]
    exact hnone
  have hwhole : Tight (returning inner).toList := by
    rw [toList_returning]
    exact tight_append (tight_of_any (by decide)).1 (by decide) (by simp [StartsTight]; decide) (by simp)
  have hne : (returning inner).toList ≠ [] := by simp [toList_returning]
  have hsegment : readSegment (returning inner) =
      (readLiteral inner.toList).map fun l => ⟨none, none, .ret (some l)⟩ := by
    unfold readSegment
    rw [trim_of_tight hwhole]
    dsimp only
    rw [if_neg hne, readGate, hletter '%' (by decide)]
    dsimp only [bind, Except.bind]
    rw [readGate, hletter '*' (by decide)]
    dsimp only [bind, Except.bind]
    rw [toList_returning, readAction_returning ht hn]
    cases readLiteral inner.toList <;> rfl
  have hsealed : Sealed Delimits (returning inner).toList := by
    rw [toList_returning]
    exact (sealed_of_not_scanned (by decide)).append
      (sealed_cons (by decide) (hs.append (sealed_singleton (by decide))))
  have hblank : ¬ isBlankText (returning inner) = true := by
    intro h
    exact absurd (List.all_eq_true.1 h 'r' (by simp [toList_returning])) (by decide)
  unfold Term.parse
  rw [if_neg hblank, Chain.split?_eq, Chain.cutText_of_sealedFrom (hsealed.mono fun c hc => by simp [Delimits, hc])]
  simp only [Option.map_some, List.map_cons, List.map_nil, String.ofList_toList, List.mapM_cons, List.mapM_nil,
    hsegment]
  cases readLiteral inner.toList <;> rfl

/-! ## Literals of accepted terms -/

theorem LiteralText.integer_range {cs : List Char} {n : Int} (h : LiteralText cs (.integer n)) :
    -2 ^ 63 ≤ n ∧ n < 2 ^ 63 := by
  cases h with
  | number hn =>
    cases hn with
    | positive _ _ hle => omega
  | minus hn =>
    cases hn with
    | negative _ _ hle => omega

/-- Whatever an accepted term returns stands in it as a literal. -/
theorem exists_literalText {spec : String} {t : Term} (h : Term.parse spec = .ok t) {s : Segment}
    (hs : s ∈ t.segments) {l : Literal} (hl : s.action = .ret (some l)) : ∃ cs, LiteralText cs l := by
  obtain ⟨ds, hd⟩ := (chainText_of_parse h).2.forall_segment s hs
  cases hd with
  | intro _ _ _ ha _ =>
    subst hl
    cases ha with
    | ret ho =>
      cases ho with
      | given _ hl => exact ⟨_, hl⟩

/-! ## Numbers -/

theorem literalText_writeInteger {n : Int} (hlow : -2 ^ 63 ≤ n) (hhigh : n < 2 ^ 63) :
    LiteralText (Literal.writeInteger n) (.integer n) := by
  have hdigits := allDigits_naturalDigits n.natAbs
  have hne := naturalDigits_ne_nil n.natAbs
  have hvalue := digitsValue_naturalDigits n.natAbs
  rw [Literal.writeInteger]
  split
  · have hnumber : NumberText true (naturalDigits n.natAbs) (.integer n) := by
      have h := NumberText.negative hdigits hne (by rw [hvalue]; omega)
      rwa [hvalue, show -(n.natAbs : Int) = n by omega] at h
    exact .minus hnumber
  · have hnumber : NumberText false (naturalDigits n.natAbs) (.integer n) := by
      have h := NumberText.positive hdigits hne (by rw [hvalue]; omega)
      rwa [hvalue, show (n.natAbs : Int) = n by omega] at h
    exact .number hnumber

/-- A float in plain form is the text of a literal. -/
theorem literalText_write {f : Format} (hf : f.pointZero = true) {x : Binary64}
    (h : f.WritesPlain x.magnitude) : LiteralText (f.write x) (.float x) := by
  obtain ⟨ws, fs, hwrite, hp, hnearest⟩ := write_of_plain hf h
  have hrounds : Rounds x.negative (ws ++ fs) fs.length x := ⟨rfl, nearestTo_pointedValue_iff.1 hnearest⟩
  have hnumber := NumberText.float hp.whole_digits hp.whole_ne_nil hp.fraction_digits hrounds
  rw [hwrite]
  cases hneg : x.negative with
  | false =>
    rw [hneg] at hnumber
    exact .number hnumber
  | true =>
    rw [hneg] at hnumber
    exact .minus hnumber

theorem NumberText.digit_or_point {negative : Bool} {cs : List Char} {l : Literal}
    (h : NumberText negative cs l) : ∀ c ∈ cs, isDigit c = true ∨ c = '.' := by
  intro c hc
  cases h with
  | positive hd => exact .inl (hd c hc)
  | negative hd => exact .inl (hd c hc)
  | float hw _ hf _ =>
    rcases List.mem_append.1 hc with hc | hc
    · exact .inl (hw c hc)
    · exact (List.mem_cons.1 hc).elim .inr fun hc => .inl (hf c hc)

/-- A character of a float. -/
def isFloatChar (c : Char) : Bool := isNumeric c || c == 'e'

/-- A float with a power of ten holds the letter of the power, and otherwise characters of numbers. -/
theorem mem_write_of_power {f : Format} {x : Binary64} (h : ¬ f.WritesPlain x.magnitude) :
    'e' ∈ f.write x ∧ ∀ c ∈ f.write x, isFloatChar c = true := by
  obtain ⟨d, ds, power, hwrite, hlead, -⟩ := write_of_power h
  have hdigits : ∀ {ds : List Char}, AllDigits ds → ∀ c ∈ ds, isFloatChar c = true :=
    fun hd c hc => by simp [isFloatChar, isNumeric_of_isDigit (hd c hc)]
  have hmantissa : ∀ c ∈ mantissa d ds, isFloatChar c = true := by
    obtain ⟨hd, hds⟩ := List.forall_mem_cons.1 (hdigits hlead.digits)
    rw [mantissa]
    split
    · simpa using hd
    · exact List.forall_mem_cons.2 ⟨hd, List.forall_mem_cons.2 ⟨by decide, hds⟩⟩
  have hsign : ∀ c ∈ signText x.negative, isFloatChar c = true := by
    cases x.negative <;> exact List.all_eq_true.1 (by decide)
  have hpower : ∀ c ∈ powerSignText f.powerSign power, isFloatChar c = true := by
    rw [powerSignText]
    split
    · exact List.all_eq_true.1 (by decide)
    · cases f.powerSign <;> exact List.all_eq_true.1 (by decide)
  rw [hwrite]
  refine ⟨by simp, List.forall_mem_append.2 ⟨hsign, List.forall_mem_append.2 ⟨hmantissa, ?_⟩⟩⟩
  refine List.forall_mem_cons.2 ⟨by decide, List.forall_mem_append.2 ⟨hpower, ?_⟩⟩
  exact hdigits (allDigits_naturalDigits _)

/-- Such a float is the text of no literal. -/
theorem not_literalText {cs : List Char} (he : 'e' ∈ cs) (hall : ∀ c ∈ cs, isFloatChar c = true) {l : Literal} :
    ¬ LiteralText cs l := by
  have hnumber : ∀ {negative ds}, 'e' ∈ ds → ¬ NumberText negative ds l :=
    fun he hn => (hn.digit_or_point _ he).elim (fun h => absurd h (by decide)) fun h => absurd h (by decide)
  intro h
  cases h with
  | yes => exact absurd (hall 't' (by decide)) (by decide)
  | no => exact absurd (hall 'f' (by decide)) (by decide)
  | number hn => exact hnumber he hn
  | minus hn => exact hnumber (by simpa using he) hn
  | string hs =>
    cases hs with
    | intro _ => exact absurd (hall '"' (by simp)) (by decide)

theorem readLiteral_malformed {cs : List Char} (ht : Tight cs) (hq : cs.head? ≠ some '"')
    (h : ∀ l, ¬ LiteralText cs l) : readLiteral cs = .error (.malformedLiteral (String.ofList cs)) := by
  cases hread : readLiteral cs with
  | ok l => exact absurd ((readLiteral_eq_ok_iff ht).1 hread) (h l)
  | error fault =>
    unfold readLiteral at hread
    rw [if_neg hq] at hread
    split at hread
    · cases hread
    split at hread
    · cases hread
    split at hread
    · cases hread
    · exact hread.symm

/-- A term with such a float is refused for it. -/
theorem parse_returning_power {f : Format} {x : Binary64} (h : ¬ f.WritesPlain x.magnitude) :
    Term.parse (returning (String.ofList (f.write x))) =
      .error (.malformedLiteral (String.ofList (f.write x))) := by
  obtain ⟨he, hall⟩ := mem_write_of_power h
  have htight : Tight (f.write x) := by
    refine tight_of_forall fun c hc => ?_
    rcases Bool.or_eq_true_iff.1 (hall c hc) with hn | hn
    · exact isBlank_of_isNumeric hn
    · rw [eq_of_beq hn]
      decide
  have hquote : (f.write x).head? ≠ some '"' :=
    fun hq => absurd (hall '"' (List.mem_of_mem_head? hq)) (by decide)
  have hread := readLiteral_malformed htight hquote fun l => not_literalText he hall
  rw [parse_returning, String.toList_ofList, hread]
  · rfl
  · rw [String.toList_ofList]
    exact sealed_of_class (by decide) hall
  · rwa [String.toList_ofList]
  · rw [String.toList_ofList]
    exact List.ne_nil_of_mem he

/-! ## Strings -/

/-- A character that is displayed as the zero escape or by its code point. -/
def ShownByCode (c : Char) : Prop :=
  quotedChar c = ['\\', '0'] ∨ ∃ code, quotedChar c = ['\\', 'u', '{'] ++ code ++ ['}']

theorem quotedChar_cases (c : Char) : quotedChar c ∈ spellings c ∨ quotedChar c = ['\\', '0'] ∨
    quotedChar c = ['\\', 'u', '{'] ++ hexDigits c.toNat ++ ['}'] := by
  unfold quotedChar
  split
  case h_1 => exact .inr (.inl rfl)
  case h_7 hb hq =>
    split
    · exact .inl (mem_spellings_iff.2 (.inl ⟨hq, hb, rfl⟩))
    · exact .inr (.inr rfl)
  all_goals exact .inl (by simp [spellings])

/-- Every other character is displayed in one of its spellings. -/
theorem quotedChar_mem_spellings_iff {c : Char} : quotedChar c ∈ spellings c ↔ ¬ ShownByCode c := by
  constructor
  · rintro h hcode
    obtain ⟨-, -, hw⟩ | ⟨e, he, hw⟩ := mem_spellings_iff.1 h
    · rcases hcode with hzero | ⟨code, hcode⟩
      · simp [hw] at hzero
      · simp [hw] at hcode
    · rcases hcode with hzero | ⟨code, hcode⟩
      · rw [hw] at hzero
        simp only [List.cons.injEq, and_true, true_and] at hzero
        simp [hzero, escapes] at he
      · simp [hw] at hcode
  · intro h
    rcases quotedChar_cases c with hw | hzero | hcode
    · exact hw
    · exact absurd (.inl hzero) h
    · exact absurd (.inr ⟨_, hcode⟩) h

theorem escapes_quotedChar {cs : List Char} (h : ∀ c ∈ cs, ¬ ShownByCode c) :
    Escapes cs (cs.flatMap quotedChar) := by
  induction cs with
  | nil => exact .nil
  | cons c cs ih =>
    obtain ⟨hc, hcs⟩ := List.forall_mem_cons.1 h
    rw [List.flatMap_cons]
    exact .cons (quotedChar_mem_spellings_iff.2 hc) (ih hcs)

/-- A string without such characters is displayed as a string of terms. -/
theorem stringText_quoted {s : String} (h : ∀ c ∈ s.toList, ¬ ShownByCode c) :
    StringText (quoted s.toList) s := by
  have htext := StringText.intro (escapes_iff.1 (escapes_quotedChar h))
  rwa [String.ofList_toList] at htext

theorem ne_of_mem_hexDigits {c : Char} {n : Nat} (h : c ∈ hexDigits n) : c ≠ '"' ∧ c ≠ '\\' := by
  have hdigit : ∀ d < 16, Nat.digitChar d ≠ '"' ∧ Nat.digitChar d ≠ '\\' := by decide
  induction n using Nat.strong_induction_on with
  | _ n ih =>
    rw [hexDigits, Nat.toDigits_eq_if (by decide)] at h
    split at h
    · next hlt => exact (List.mem_singleton.1 h) ▸ hdigit n hlt
    · rcases List.mem_append.1 h with h | h
      · exact ih (n / 16) (by omega) h
      · exact (List.mem_singleton.1 h) ▸ hdigit (n % 16) (by omega)

theorem sealedFrom_inside_append {bad : Char → Prop} {cs rest : List Char} (h : ∀ c ∈ cs, c ≠ '"' ∧ c ≠ '\\')
    (hrest : SealedFrom bad .inside rest) : SealedFrom bad .inside (cs ++ rest) := by
  induction cs with
  | nil => exact hrest
  | cons c cs ih =>
    obtain ⟨hc, hcs⟩ := List.forall_mem_cons.1 h
    have hstep : QuoteState.inside.step c = .inside := by simp [QuoteState.step, hc]
    refine ⟨by simp, ?_⟩
    rw [hstep]
    exact ih hcs

theorem sealedFrom_escaped {bad : Char → Prop} (e : Char) {rest : List Char} (hrest : SealedFrom bad .inside rest) :
    SealedFrom bad .inside ('\\' :: e :: rest) :=
  ⟨by simp, by simp [QuoteState.step], hrest⟩

/-- A displayed character does not end the string around it. -/
theorem sealedFrom_quotedChar {bad : Char → Prop} (c : Char) {rest : List Char}
    (hrest : SealedFrom bad .inside rest) : SealedFrom bad .inside (quotedChar c ++ rest) := by
  rcases quotedChar_cases c with hw | hzero | hcode
  · obtain ⟨hq, hb, hw⟩ | ⟨e, -, hw⟩ := mem_spellings_iff.1 hw
    · rw [hw]
      exact sealedFrom_inside_append (by simpa using ⟨hq, hb⟩) hrest
    · rw [hw]
      exact sealedFrom_escaped e hrest
  · rw [hzero]
    exact sealedFrom_escaped '0' hrest
  · rw [hcode]
    have hbrace : SealedFrom bad .inside (('{' :: hexDigits c.toNat ++ ['}']) ++ rest) := by
      refine sealedFrom_inside_append ?_ hrest
      refine List.forall_mem_append.2 ⟨List.forall_mem_cons.2 ⟨by decide, fun _ => ne_of_mem_hexDigits⟩, ?_⟩
      simp
    exact sealedFrom_escaped 'u' hbrace

theorem sealedFrom_flatMap_quotedChar {bad : Char → Prop} (cs : List Char) :
    SealedFrom bad .inside (cs.flatMap quotedChar ++ ['"']) := by
  induction cs with
  | nil => exact ⟨by simp, rfl⟩
  | cons c cs ih =>
    rw [List.flatMap_cons, List.append_assoc]
    exact sealedFrom_quotedChar c ih

theorem quoted_isSealed (cs : List Char) : Sealed Delimits (quoted cs) :=
  ⟨fun _ => by simp [Delimits], sealedFrom_flatMap_quotedChar cs⟩

/-- The escapes that only displayed texts have. -/
def displayEscapes : List Char := ['0', 'u']

/-- The first character that is shown by its code ends the reading of a string. -/
theorem readQuoted_quotedChar {cs : List Char} (h : ∃ c ∈ cs, ShownByCode c) (rest : List Char) :
    ∃ e ∈ displayEscapes, readQuoted (cs.flatMap quotedChar ++ rest) = .error (.unknownEscape e) := by
  have hunknown : ∀ e ∈ displayEscapes, ∀ text, readQuoted ('\\' :: e :: text) = .error (.unknownEscape e) := by
    intro e he text
    simp only [displayEscapes, List.mem_cons, List.not_mem_nil, or_false] at he
    rcases he with rfl | rfl <;> rfl
  induction cs with
  | nil => simp at h
  | cons c cs ih =>
    rw [List.flatMap_cons, List.append_assoc]
    rcases quotedChar_cases c with hw | hzero | hcode
    · have hc := quotedChar_mem_spellings_iff.1 hw
      obtain ⟨e, he, hread⟩ := ih (by simpa [hc] using h)
      refine ⟨e, he, ?_⟩
      obtain ⟨hq, hb, hw⟩ | ⟨d, hd, hw⟩ := mem_spellings_iff.1 hw
      · rw [hw, List.singleton_append, readQuoted_plain hq hb, hread]
        rfl
      · rw [hw, List.cons_append, List.singleton_append, readQuoted, unescape?_eq_some_iff.2 hd, hread]
        rfl
    · rw [hzero]
      exact ⟨'0', by decide, hunknown '0' (by decide) _⟩
    · rw [hcode]
      exact ⟨'u', by decide, hunknown 'u' (by decide) _⟩

/-- A term with such a string is refused for that character. -/
theorem parse_returning_shownByCode {s : String} (h : ∃ c ∈ s.toList, ShownByCode c) :
    ∃ e ∈ displayEscapes, Term.parse (returning (quotedText s)) = .error (.unknownEscape e) := by
  obtain ⟨e, he, hread⟩ := readQuoted_quotedChar h ['"']
  refine ⟨e, he, ?_⟩
  have hliteral : readLiteral (quoted s.toList) = .error (.unknownEscape e) := by
    rw [readLiteral_of_quote rfl, quoted, List.cons_append, readString, hread]
    rfl
  rw [quotedText, parse_returning, String.toList_ofList, hliteral]
  · rfl
  · rw [String.toList_ofList]
    exact quoted_isSealed _
  · rw [String.toList_ofList]
    exact tight_between (by decide) (by decide) _
  · simp [quoted]

/-! ## Reading back -/

/-- A literal whose displayed form is its notation in terms. -/
def Literal.ReadsBack : Literal → Prop
  | .string s => ∀ c ∈ s.toList, ¬ ShownByCode c
  | .integer _ => True
  | .float x => x.magnitude = 0 ∨
      ((10 : ℚ) ^ (-4 : Int) ≤ magnitudeValue x.magnitude ∧ magnitudeValue x.magnitude < 10 ^ (16 : Int))
  | .bool _ => True

theorem literalText_display {cs : List Char} {l : Literal} (h : LiteralText cs l) (hl : l.ReadsBack) :
    LiteralText l.display.toList l := by
  cases l with
  | string s =>
    rw [Literal.display, quotedText, String.toList_ofList]
    exact .string (stringText_quoted hl)
  | integer n =>
    rw [Literal.display, String.toList_ofList]
    exact literalText_writeInteger h.integer_range.1 h.integer_range.2
  | float x =>
    rw [Literal.display, String.toList_ofList]
    exact literalText_write rfl ((display_plain_iff _).2 hl)
  | bool b =>
    rw [Literal.display, String.toList_ofList]
    cases b
    · exact .no
    · exact .yes

/-- Why a displayed literal is refused. -/
def displayFaults (l : Literal) : List TermFault :=
  .malformedLiteral l.display :: displayEscapes.map .unknownEscape

theorem parse_display_of_not_readsBack {l : Literal} (h : ¬ l.ReadsBack) :
    ∃ fault ∈ displayFaults l, Term.parse (returning l.display) = .error fault := by
  cases l with
  | string s =>
    have hcode : ∃ c ∈ s.toList, ShownByCode c := by
      simpa [Literal.ReadsBack] using h
    obtain ⟨e, he, hparse⟩ := parse_returning_shownByCode hcode
    exact ⟨_, List.mem_cons_of_mem _ (List.mem_map_of_mem he), hparse⟩
  | integer n => exact absurd trivial h
  | float x =>
    have hpower : ¬ Format.display.WritesPlain x.magnitude := fun hp => h ((display_plain_iff _).1 hp)
    exact ⟨_, List.mem_cons_self, parse_returning_power hpower⟩
  | bool b => exact absurd trivial h

/-- A term that returns the displayed text of a literal returns that literal, if the literal is an integer, a
truth value, a float that is zero or lies from a ten-thousandth up to below ten to the sixteenth, or a string
without characters that are shown by their code. Otherwise the term is refused as invalid. -/
theorem display_reads_back (spec : String) (t : Term) (hparse : Term.parse spec = .ok t) (s : Segment)
    (hs : s ∈ t.segments) (l : Literal) (hl : s.action = .ret (some l)) :
    (Term.parse (returning l.display) = .ok ⟨returning l.display, [⟨none, none, .ret (some l)⟩]⟩ ↔
      l.ReadsBack) ∧
    (¬ l.ReadsBack → ∃ fault ∈ displayFaults l,
      (Term.parse (returning l.display)).mapError TermFault.toInputError = .error (.term fault.reason)) ∧
    (∀ t', Term.parse (returning l.display) = .ok t' → t'.segments = [⟨none, none, .ret (some l)⟩]) := by
  obtain ⟨cs, hcs⟩ := exists_literalText hparse hs hl
  have hreads : l.ReadsBack →
      Term.parse (returning l.display) = .ok ⟨returning l.display, [⟨none, none, .ret (some l)⟩]⟩ := by
    intro hback
    have htext := literalText_display hcs hback
    rw [parse_returning htext.isSealed htext.tight htext.ne_nil, (readLiteral_eq_ok_iff htext.tight).2 htext]
    rfl
  refine ⟨⟨fun hok => ?_, hreads⟩, fun hback => ?_, fun t' hok => ?_⟩
  · by_contra hback
    obtain ⟨fault, -, herror⟩ := parse_display_of_not_readsBack hback
    rw [herror] at hok
    cases hok
  · obtain ⟨fault, hfault, herror⟩ := parse_display_of_not_readsBack hback
    refine ⟨fault, hfault, ?_⟩
    rw [herror]
    rfl
  · by_cases hback : l.ReadsBack
    · rw [hreads hback] at hok
      obtain rfl := Except.ok.inj hok
      rfl
    · obtain ⟨fault, -, herror⟩ := parse_display_of_not_readsBack hback
      rw [herror] at hok
      cases hok

/-- Ten to the sixteenth as a double. -/
def sixteenZeros : Binary64 := ⟨false, tenToSixteen, by decide⟩

/-- The negative zero reads back from its text; ten to the sixteenth is shown with a power, and refused. -/
theorem display_reads_back_zeroAndPower :
    Term.parse "1*return(-0.0)->return(10000000000000000)->return(10000000000000000.0)" =
      .ok ⟨"1*return(-0.0)->return(10000000000000000)->return(10000000000000000.0)",
        [⟨none, some 1, .ret (some (.float (.signedZero true)))⟩,
          ⟨none, none, .ret (some (.integer (10 ^ 16)))⟩, ⟨none, none, .ret (some (.float sixteenZeros))⟩]⟩ ∧
    (Literal.float (.signedZero true)).display = "-0.0" ∧
    Term.parse "return(-0.0)" = .ok ⟨"return(-0.0)", [⟨none, none, .ret (some (.float (.signedZero true)))⟩]⟩ ∧
    (Literal.float sixteenZeros).display = "1e16" ∧ ¬ (Literal.float sixteenZeros).ReadsBack ∧
    ∃ fault ∈ displayFaults (.float sixteenZeros),
      (Term.parse "return(1e16)").mapError TermFault.toInputError = .error (.term fault.reason) := by
  have hparse : Term.parse "1*return(-0.0)->return(10000000000000000)->return(10000000000000000.0)" =
      .ok ⟨"1*return(-0.0)->return(10000000000000000)->return(10000000000000000.0)",
        [⟨none, some 1, .ret (some (.float (.signedZero true)))⟩,
          ⟨none, none, .ret (some (.integer (10 ^ 16)))⟩, ⟨none, none, .ret (some (.float sixteenZeros))⟩]⟩ := by
    decide +kernel
  have hzero : (Literal.float (.signedZero true)).display = "-0.0" := by decide +kernel
  have hpower : (Literal.float sixteenZeros).display = "1e16" := by decide +kernel
  have hback : ¬ (Literal.float sixteenZeros).ReadsBack := by
    intro h
    have hplain := (display_plain_iff tenToSixteen).2 h
    unfold Format.WritesPlain at hplain
    revert hplain
    decide +kernel
  have hread := (display_reads_back _ _ hparse ⟨none, some 1, _⟩ (by simp) (.float (.signedZero true)) rfl).1.2
    (.inl rfl)
  have hrefused := (display_reads_back _ _ hparse ⟨none, none, _⟩ (by simp) (.float sixteenZeros) rfl).2.1 hback
  rw [hzero] at hread
  rw [hpower] at hrefused
  exact ⟨hparse, hzero, hread, hpower, hback, hrefused⟩

end FaultInjection
