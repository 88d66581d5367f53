import FaultInjection.Literal
import FaultInjection.Proofs.Decimal.Format
import FaultInjection.Proofs.Json.Grammar

/-!
# Literals in JSON

The text that a literal has in JSON follows the grammar, and whoever reads it by the grammar is left with the
literal: the characters of a string, the integer, the double with its sign, the truth value
(`Literal.exists_reading`, `Literal.denotes_of_reading`). So no two literals have the same text
(`Literal.json_injective`).
-/

namespace FaultInjection

open Decimal Text

namespace Json

/-- The exact value of a number, its sign aside. -/
def Number.value (n : Number) : ℚ := pointedValue n.whole n.fraction * 10 ^ n.power.getD 0

/-- What a value is as a literal: a number with neither a fraction nor a power of ten is an integer, and any
other number is the double nearest to it. -/
inductive Value.Denotes : Value → Literal → Prop where
  | string {s : String} : Value.Denotes (.string s) (.string s)
  | bool {b : Bool} : Value.Denotes (.bool b) (.bool b)
  | integer {n : Number} : n.fraction = [] → n.power = none → Value.Denotes (.number n)
      (.integer (if n.negative then -(digitsValue n.whole : Int) else digitsValue n.whole))
  | float {n : Number} {x : Binary64} : n.fraction ≠ [] ∨ n.power ≠ none → x.negative = n.negative →
      NearestTo n.value x.magnitude → Value.Denotes (.number n) (.float x)

/-- A value is at most one literal. -/
theorem Value.Denotes.unique {v : Value} {l l' : Literal} (h : v.Denotes l) (h' : v.Denotes l') : l = l' := by
  cases h with
  | string =>
    cases h'
    rfl
  | bool =>
    cases h'
    rfl
  | integer hf hp =>
    cases h' with
    | integer => rfl
    | float hshown => exact absurd hshown (by simp [hf, hp])
  | @float n x hshown hneg hnear =>
    cases h' with
    | integer hf hp => exact absurd hshown (by simp [hf, hp])
    | @float _ y _ hneg' hnear' =>
      obtain ⟨negative, magnitude, hx⟩ := x
      obtain ⟨negative', magnitude', hy⟩ := y
      obtain rfl : magnitude = magnitude' := hnear.unique hnear'
      obtain rfl : negative = negative' := hneg.trans hneg'.symm
      rfl

/-! ## Strings -/

/-- A character is escaped by a letter, stands for itself, or is written by its code. -/
theorem escapedChar_cases (c : Char) : (∃ e, (e, c) ∈ letterEscapes ∧ escapedChar c = ['\\', e]) ∨
    (0x20 ≤ c.toNat ∧ c ≠ '"' ∧ c ≠ '\\' ∧ escapedChar c = [c]) ∨
    (c.toNat < 0x20 ∧
      escapedChar c = ['\\', 'u', '0', '0', lowerHex (c.toNat / 16), lowerHex (c.toNat % 16)]) := by
  unfold escapedChar
  split
  case h_8 hq hb _ _ _ _ _ =>
    split
    · next hlow => exact .inr (.inr ⟨hlow, rfl⟩)
    · next hlow => exact .inr (.inl ⟨Nat.le_of_not_lt hlow, hq, hb, rfl⟩)
  all_goals exact .inl ⟨_, by simp [letterEscapes], rfl⟩

/-- A code that is no half of a surrogate pair is one character, whatever follows it. -/
theorem joinItems_codeUnit {n : Nat} (hn : n < 0xD800) {items : List StringItem} {cs : List Char}
    (h : joinItems items = some cs) : joinItems (.codeUnit n :: items) = some (Char.ofNat n :: cs) := by
  have hhigh : ¬ (0xD800 ≤ n ∧ n < 0xDC00) := by omega
  have hlow : ¬ (0xDC00 ≤ n ∧ n < 0xE000) := by omega
  have hany : ¬ (0xD800 ≤ n ∧ n < 0xE000) := by omega
  unfold joinItems
  split
  · next heq => cases heq
  · next heq => cases heq
  · next heq =>
    cases heq
    rw [if_neg hhigh, if_neg hlow, h, Option.map_some]
  · next heq =>
    cases heq
    rw [if_neg hany, h, Option.map_some]

theorem hex4?_of_lt {n : Nat} (h : n < 0x20) : hex4? '0' '0' (lowerHex (n / 16)) (lowerHex (n % 16)) = some n := by
  have hall : ∀ n < 0x20, hex4? '0' '0' (lowerHex (n / 16)) (lowerHex (n % 16)) = some n := by decide
  exact hall n h

/-- A written text is the body of a string that denotes it. -/
theorem exists_stringBody (cs : List Char) :
    ∃ items, StringBody (cs.flatMap escapedChar) items ∧ joinItems items = some cs := by
  induction cs with
  | nil => exact ⟨[], .nil, rfl⟩
  | cons c cs ih =>
    obtain ⟨items, hbody, hjoin⟩ := ih
    rw [List.flatMap_cons]
    rcases escapedChar_cases c with ⟨e, he, hw⟩ | ⟨hc, hq, hb, hw⟩ | ⟨hc, hw⟩
    · rw [hw]
      exact ⟨.char c :: items, .escape he hbody, by rw [joinItems, hjoin, Option.map_some]⟩
    · rw [hw]
      exact ⟨.char c :: items, .plain hc hq hb hbody, by rw [joinItems, hjoin, Option.map_some]⟩
    · rw [hw]
      refine ⟨.codeUnit c.toNat :: items, .code (hex4?_of_lt hc) hbody, ?_⟩
      rw [joinItems_codeUnit (by omega) hjoin, Char.ofNat_toNat]

theorem denotes_of_stringBody {s : String} {items : List StringItem}
    (h : StringBody (s.toList.flatMap escapedChar) items) : (stringValue items).Denotes (.string s) := by
  obtain ⟨items', hbody, hjoin⟩ := exists_stringBody s.toList
  obtain rfl := h.unique hbody
  rw [stringValue, hjoin]
  dsimp only
  rw [String.ofList_toList]
  exact .string

/-! ## Numbers -/

theorem wholeText_naturalDigits (n : Nat) : WholeText (naturalDigits n) where
  digits := allDigits_naturalDigits n
  ne_nil := naturalDigits_ne_nil n
  no_idle_zero := by
    by_cases hn : n = 0
    · subst hn
      exact .inl (by decide)
    · exact .inr (head?_naturalDigits hn)

theorem exists_number_writeInteger (n : Int) :
    ∃ m, NumberText (Literal.writeInteger n) m ∧ (Value.number m).Denotes (.integer n) := by
  have hwhole := wholeText_naturalDigits n.natAbs
  have hvalue := digitsValue_naturalDigits n.natAbs
  rw [Literal.writeInteger]
  split
  · refine ⟨⟨true, naturalDigits n.natAbs, [], none⟩, ?_, ?_⟩
    · simpa using NumberText.intro .minus hwhole .absent .absent
    · have hdenotes : Value.Denotes (.number ⟨true, naturalDigits n.natAbs, [], none⟩)
          (.integer (-(digitsValue (naturalDigits n.natAbs) : Int))) := .integer rfl rfl
      rwa [hvalue, show -(n.natAbs : Int) = n by omega] at hdenotes
  · refine ⟨⟨false, naturalDigits n.natAbs, [], none⟩, ?_, ?_⟩
    · simpa using NumberText.intro .absent hwhole .absent .absent
    · have hdenotes : Value.Denotes (.number ⟨false, naturalDigits n.natAbs, [], none⟩)
          (.integer (digitsValue (naturalDigits n.natAbs))) := .integer rfl rfl
      rwa [hvalue, show (n.natAbs : Int) = n by omega] at hdenotes

theorem minusText_signText (negative : Bool) : MinusText (signText negative) negative := by
  cases negative
  · exact .absent
  · exact .minus

/-- A power of ten behind its letter, with the sign that the format gives it. -/
theorem powerText_power (powerSign : Bool) (power : Int) :
    PowerText ('e' :: (powerSignText powerSign power ++ naturalDigits power.natAbs)) (some power) := by
  have hdigits := allDigits_naturalDigits power.natAbs
  have hne := naturalDigits_ne_nil power.natAbs
  have hvalue := digitsValue_naturalDigits power.natAbs
  rw [powerSignText]
  by_cases hneg : power < 0
  · have h : PowerText ('e' :: (['-'] ++ naturalDigits power.natAbs))
        (some (-(digitsValue (naturalDigits power.natAbs) : Int))) := .given (.inl rfl) .minus hdigits hne
    rw [hvalue, show -(power.natAbs : Int) = power by omega] at h
    rwa [if_pos hneg]
  · have h : ∀ {sign}, SignText sign false →
        PowerText ('e' :: (sign ++ naturalDigits power.natAbs)) (some power) := by
      intro sign hsign
      have h := PowerText.given (.inl rfl) hsign hdigits hne
      rwa [hvalue, if_neg Bool.false_ne_true, show (power.natAbs : Int) = power by omega] at h
    rw [if_neg hneg]
    cases powerSign with
    | true => exact h .plus
    | false => exact h .none

/-- A written double is a number with a fraction or a power of ten, and the nearest double to it. -/
theorem exists_number_write {f : Format} (hf : f.pointZero = true) (x : Binary64) :
    ∃ n, NumberText (f.write x) n ∧ (Value.number n).Denotes (.float x) := by
  have hsign := minusText_signText x.negative
  by_cases hplain : f.WritesPlain x.magnitude
  · obtain ⟨ws, fs, hwrite, hp, hnearest⟩ := write_of_plain hf hplain
    have hwhole : WholeText ws := ⟨hp.whole_digits, hp.whole_ne_nil, hp.no_idle_zero⟩
    refine ⟨⟨x.negative, ws, fs, none⟩, ?_, .float (.inl hp.fraction_ne_nil) rfl ?_⟩
    · rw [hwrite]
      simpa using NumberText.intro hsign hwhole (.given hp.fraction_digits hp.fraction_ne_nil) .absent
    · simpa [Number.value] using hnearest
  · obtain ⟨d, ds, power, hwrite, hlead, hnearest⟩ := write_of_power hplain
    obtain ⟨hd, hds⟩ := List.forall_mem_cons.1 hlead.digits
    have hwhole : WholeText [d] := ⟨by simpa [AllDigits] using hd, by simp, .inr hlead.head⟩
    refine ⟨⟨x.negative, [d], ds, some power⟩, ?_, .float (.inr (by simp)) rfl hnearest⟩
    rw [hwrite, mantissa]
    by_cases hone : ds = []
    · subst hone
      simpa using NumberText.intro hsign hwhole .absent (powerText_power f.powerSign power)
    · simpa [hone] using NumberText.intro hsign hwhole (.given hds hone) (powerText_power f.powerSign power)

theorem NumberText.tight {cs : List Char} {n : Number} (h : NumberText cs n) : Tight cs := by
  have hdigits : ∀ {ds}, AllDigits ds → ∀ c ∈ ds, isBlank c = false :=
    fun hd c hc => isBlank_of_isDigit (hd c hc)
  refine tight_of_forall ?_
  cases h with
  | @intro minus whole point fraction mark negative power hm hw hf hp =>
    have hminus : ∀ c ∈ minus, isBlank c = false := by
      cases hm
      · simp
      · simpa using by decide
    have hpoint : ∀ c ∈ point, isBlank c = false := by
      cases hf with
      | absent => simp
      | given hd _ => exact List.forall_mem_cons.2 ⟨by decide, hdigits hd⟩
    have hmark : ∀ c ∈ mark, isBlank c = false := by
      cases hp with
      | absent => simp
      | given he hs hd _ =>
        refine List.forall_mem_cons.2 ⟨by rcases he with rfl | rfl <;> decide, ?_⟩
        refine List.forall_mem_append.2 ⟨?_, hdigits hd⟩
        cases hs
        · simp
        · simpa using by decide
        · simpa using by decide
    exact List.forall_mem_append.2 ⟨hminus, List.forall_mem_append.2 ⟨hdigits hw.digits,
      List.forall_mem_append.2 ⟨hpoint, hmark⟩⟩⟩

/-- The text of a number is nothing else. -/
theorem NumberText.eq_of_value {cs : List Char} {n : Number} {v : Value} (hn : NumberText cs n)
    (h : ValueText cs v) : v = .number n := by
  obtain ⟨c, rest, rfl, hc⟩ := hn.head
  obtain ⟨n', hn', rfl⟩ := h.of_number hc
  rw [hn.unique hn']

end Json

namespace Literal

open Json

/-! ## All literals -/

theorem toList_json_string (s : String) :
    (Literal.string s).json.toList = '"' :: (s.toList.flatMap escapedChar ++ ['"']) := by
  simp [json, writeString]

theorem toList_json_bool (b : Bool) : (Literal.bool b).json.toList = writeBool b := String.toList_ofList

/-- The numbers among the literals are written as numbers that denote them. -/
theorem exists_number {l : Literal} (h : (∃ n, l = .integer n) ∨ ∃ x, l = .float x) :
    ∃ n, Json.NumberText l.json.toList n ∧ (Value.number n).Denotes l := by
  obtain ⟨n, rfl⟩ | ⟨x, rfl⟩ := h
  · rw [json, String.toList_ofList]
    exact exists_number_writeInteger n
  · rw [json, String.toList_ofList]
    exact exists_number_write rfl x

/-- The text of a literal can be read. -/
theorem exists_reading (l : Literal) : ∃ v, JsonText l.json.toList v := by
  cases l with
  | string s =>
    obtain ⟨items, hbody, -⟩ := exists_stringBody s.toList
    rw [toList_json_string]
    exact ⟨_, (ValueText.string hbody).jsonText⟩
  | integer n =>
    obtain ⟨m, hm, -⟩ := exists_number (.inl ⟨n, rfl⟩)
    exact ⟨_, (ValueText.number hm).jsonText⟩
  | float x =>
    obtain ⟨m, hm, -⟩ := exists_number (.inr ⟨x, rfl⟩)
    exact ⟨_, (ValueText.number hm).jsonText⟩
  | bool b =>
    rw [toList_json_bool]
    cases b
    · exact ⟨_, ValueText.no.jsonText⟩
    · exact ⟨_, ValueText.yes.jsonText⟩

/-- However the text of a literal is read, it denotes the literal. -/
theorem denotes_of_reading {l : Literal} {v : Value} (h : JsonText l.json.toList v) : v.Denotes l := by
  have hnumber : ((∃ n, l = .integer n) ∨ ∃ x, l = .float x) → v.Denotes l := by
    intro hl
    obtain ⟨n, hn, hdenotes⟩ := exists_number hl
    rwa [hn.eq_of_value (h.value hn.tight)]
  cases l with
  | string s =>
    rw [toList_json_string] at h
    obtain ⟨body, items, hcs, hbody, rfl⟩ := (h.value (tight_between (by decide) (by decide) _)).of_quote
    obtain rfl := List.append_cancel_right hcs
    exact denotes_of_stringBody hbody
  | integer n => exact hnumber (.inl ⟨n, rfl⟩)
  | float x => exact hnumber (.inr ⟨x, rfl⟩)
  | bool b =>
    rw [toList_json_bool] at h
    cases b with
    | false =>
      obtain ⟨hcs, -⟩ | ⟨-, rfl⟩ := (h.value (tight_of_any (by decide))).of_letter (.inr rfl)
      · exact absurd hcs (by decide)
      · exact .bool
    | true =>
      obtain ⟨-, rfl⟩ | ⟨hcs, -⟩ := (h.value (tight_of_any (by decide))).of_letter (.inl rfl)
      · exact .bool
      · exact absurd hcs (by decide)

/-- Two literals do not have the same text. -/
theorem json_injective : Function.Injective json := by
  intro l l' h
  obtain ⟨v, hv⟩ := exists_reading l
  have hv' := hv
  rw [h] at hv'
  exact (denotes_of_reading hv).unique (denotes_of_reading hv')

end Literal

end FaultInjection
