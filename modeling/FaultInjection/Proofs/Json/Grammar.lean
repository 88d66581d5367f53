import FaultInjection.Json.Parser
import FaultInjection.Proofs.Term.Grammar

/-!
# The grammar of JSON

What a text has to look like to be JSON, and the value that it denotes, as RFC 8259 has it and without
regard to how it is read. Each kind of text is a relation between characters and what they denote; the
largest is `JsonText`. A text that begins as a string or as a number is nothing else, and is one in a single
way (`ValueText.of_quote`, `ValueText.of_number`), because the readers of strings and numbers follow the
grammar.
-/

namespace FaultInjection.Json

open Decimal Text

/-- Spaces between tokens. -/
def Spaces (cs : List Char) : Prop := ∀ c ∈ cs, isSpace c = true

/-- The letters that may follow a backslash, and what they stand for. -/
def letterEscapes : List (Char × Char) :=
  [('"', '"'), ('\\', '\\'), ('/', '/'), ('b', '\x08'), ('f', '\x0c'), ('n', '\n'), ('r', '\r'), ('t', '\t')]

/-- What stands between the quotes of a string: characters that are no control characters, and escapes. -/
inductive StringBody : List Char → List StringItem → Prop where
  | nil : StringBody [] []
  | plain {c : Char} {cs : List Char} {items : List StringItem} : 0x20 ≤ c.toNat → c ≠ '"' → c ≠ '\\' →
      StringBody cs items → StringBody (c :: cs) (.char c :: items)
  | escape {e c : Char} {cs : List Char} {items : List StringItem} : (e, c) ∈ letterEscapes →
      StringBody cs items → StringBody ('\\' :: e :: cs) (.char c :: items)
  | code {h₁ h₂ h₃ h₄ : Char} {n : Nat} {cs : List Char} {items : List StringItem} :
      hex4? h₁ h₂ h₃ h₄ = some n → StringBody cs items →
      StringBody ('\\' :: 'u' :: h₁ :: h₂ :: h₃ :: h₄ :: cs) (.codeUnit n :: items)

/-- An optional minus sign. -/
inductive MinusText : List Char → Bool → Prop where
  | absent : MinusText [] false
  | minus : MinusText ['-'] true

/-- The whole part of a number: a zero, or digits that do not begin with one. -/
structure WholeText (ds : List Char) : Prop where
  digits : AllDigits ds
  ne_nil : ds ≠ []
  no_idle_zero : ds = ['0'] ∨ ds.head? ≠ some '0'

/-- An optional fraction, and its digits. -/
inductive FractionText : List Char → List Char → Prop where
  | absent : FractionText [] []
  | given {ds : List Char} : AllDigits ds → ds ≠ [] → FractionText ('.' :: ds) ds

/-- An optional power of ten. -/
inductive PowerText : List Char → Option Int → Prop where
  | absent : PowerText [] none
  | given {e : Char} {sign ds : List Char} {negative : Bool} : e = 'e' ∨ e = 'E' → SignText sign negative →
      AllDigits ds → ds ≠ [] →
      PowerText (e :: (sign ++ ds)) (some (if negative then -(digitsValue ds : Int) else digitsValue ds))

/-- A number. -/
inductive NumberText : List Char → Number → Prop where
  | intro {minus whole point fraction mark : List Char} {negative : Bool} {power : Option Int} :
      MinusText minus negative → WholeText whole → FractionText point fraction → PowerText mark power →
      NumberText (minus ++ (whole ++ (point ++ mark))) ⟨negative, whole, fraction, power⟩

mutual

/-- A value. -/
inductive ValueText : List Char → Value → Prop where
  | null : ValueText ['n', 'u', 'l', 'l'] .null
  | yes : ValueText ['t', 'r', 'u', 'e'] (.bool true)
  | no : ValueText ['f', 'a', 'l', 's', 'e'] (.bool false)
  | number {cs : List Char} {n : Number} : NumberText cs n → ValueText cs (.number n)
  | string {cs : List Char} {items : List StringItem} : StringBody cs items →
      ValueText ('"' :: (cs ++ ['"'])) (stringValue items)
  | noElements {cs : List Char} : Spaces cs → ValueText ('[' :: (cs ++ [']'])) (.array [])
  | array {cs : List Char} {vs : List Value} : ElementsText cs vs → ValueText ('[' :: (cs ++ [']'])) (.array vs)
  | noMembers {cs : List Char} : Spaces cs → ValueText ('\x7b' :: (cs ++ ['\x7d'])) (.object [])
  | object {cs : List Char} {ms : List (Option String × Value)} : MembersText cs ms →
      ValueText ('\x7b' :: (cs ++ ['\x7d'])) (.object ms)

/-- The elements of an array, with commas between them. -/
inductive ElementsText : List Char → List Value → Prop where
  | last {before cs after : List Char} {v : Value} : Spaces before → ValueText cs v → Spaces after →
      ElementsText (before ++ (cs ++ after)) [v]
  | cons {before cs after rest : List Char} {v : Value} {vs : List Value} : Spaces before → ValueText cs v →
      Spaces after → ElementsText rest vs → ElementsText (before ++ (cs ++ (after ++ ',' :: rest))) (v :: vs)

/-- The members of an object, with commas between them. -/
inductive MembersText : List Char → List (Option String × Value) → Prop where
  | last {before key between cs : List Char} {items : List StringItem} {vs : List Value} {v : Value} :
      Spaces before → StringBody key items → Spaces between → ElementsText cs [v] →
      MembersText (before ++ '"' :: (key ++ '"' :: (between ++ ':' :: cs)))
        [((joinItems items).map String.ofList, v)]
  | cons {before key between cs rest : List Char} {items : List StringItem} {v : Value}
      {ms : List (Option String × Value)} : Spaces before → StringBody key items → Spaces between →
      ElementsText cs [v] → MembersText rest ms →
      MembersText (before ++ '"' :: (key ++ '"' :: (between ++ ':' :: (cs ++ ',' :: rest))))
        (((joinItems items).map String.ofList, v) :: ms)

end

/-- A whole text: a value with spaces around it. -/
inductive JsonText : List Char → Value → Prop where
  | intro {before cs after : List Char} {v : Value} : Spaces before → ValueText cs v → Spaces after →
      JsonText (before ++ cs ++ after) v

/-! ## Strings -/

theorem readItems_plain {c : Char} (hc : 0x20 ≤ c.toNat) (hq : c ≠ '"') (hb : c ≠ '\\') (cs : List Char) :
    readItems (c :: cs) = (readItems cs).map fun (items, after) => (.char c :: items, after) := by
  rw [readItems, if_neg (Nat.not_lt.2 hc)]
  all_goals simp_all

theorem readItems_escape {e c : Char} (h : (e, c) ∈ letterEscapes) {cs after : List Char}
    {items : List StringItem} (hcs : readItems cs = some (items, after)) :
    readItems ('\\' :: e :: cs) = some (.char c :: items, after) := by
  have hsimple : simpleEscape? e = some c ∧ e ≠ 'u' := by
    simp only [letterEscapes, List.mem_cons, List.not_mem_nil, or_false, Prod.mk.injEq] at h
    rcases h with ⟨rfl, rfl⟩ | ⟨rfl, rfl⟩ | ⟨rfl, rfl⟩ | ⟨rfl, rfl⟩ | ⟨rfl, rfl⟩ | ⟨rfl, rfl⟩ | ⟨rfl, rfl⟩ |
      ⟨rfl, rfl⟩ <;> decide
  rw [readItems, hsimple.1, hcs]
  simp [hsimple.2]

/-- A string is read up to the quote behind its body. -/
theorem readItems_of_body {cs : List Char} {items : List StringItem} (h : StringBody cs items)
    (rest : List Char) : readItems (cs ++ '"' :: rest) = some (items, rest) := by
  induction h with
  | nil => rfl
  | plain hc hq hb _ ih => rw [List.cons_append, readItems_plain hc hq hb, ih, Option.map_some]
  | escape he _ ih => exact readItems_escape he ih
  | code hn _ ih =>
    simp only [List.cons_append]
    rw [readItems, hn, ih]

theorem StringBody.unique {cs : List Char} {items items' : List StringItem} (h : StringBody cs items)
    (h' : StringBody cs items') : items = items' := by
  have hread := readItems_of_body h []
  rw [readItems_of_body h' []] at hread
  exact (congrArg Prod.fst (Option.some.inj hread)).symm

/-! ## Numbers -/

/-- Digits are read up to what is no digit. -/
theorem spanDigits_of_head {ds rest : List Char} (h : AllDigits ds) (hr : ∀ c ∈ rest.head?, isDigit c = false) :
    spanDigits (ds ++ rest) = (ds, rest) := by
  cases rest with
  | nil =>
    rw [List.append_nil, spanDigits, List.takeWhile_eq_self_iff.2 h, List.dropWhile_eq_nil_iff.2 h]
  | cons c rest => exact spanDigits_append h (hr c rfl) rest

theorem ne_sign_of_isDigit {c : Char} (h : isDigit c = true) : c ≠ '-' ∧ c ≠ '+' := by
  constructor
  · rintro rfl
    exact absurd h (by decide)
  · rintro rfl
    exact absurd h (by decide)

/-- What can stand behind a number: a text that does not go on with it. -/
def NumberEnds (rest : List Char) : Prop := ∀ c ∈ rest.head?, isDigit c = false ∧ c ≠ '.' ∧ c ≠ 'e' ∧ c ≠ 'E'

theorem numberEnds_nil : NumberEnds [] := fun c hc => by cases hc

variable {rest : List Char}

theorem readPower?_append {mark : List Char} {power : Option Int} (h : PowerText mark power) (hr : NumberEnds rest) :
    readPower? (mark ++ rest) = some (power, rest) := by
  cases h with
  | absent =>
    rw [List.nil_append]
    cases rest with
    | nil => rfl
    | cons c rest =>
      obtain ⟨-, -, he, hE⟩ := hr c rfl
      exact if_neg (not_or.2 ⟨he, hE⟩)
  | @given e sign ds negative he hs hd hn =>
    have hspan : spanDigits (ds ++ rest) = (ds, rest) := spanDigits_of_head hd fun c hc => (hr c hc).1
    have hempty : ds.isEmpty = false := by simpa using hn
    unfold readPower?
    cases hs with
    | plus => simp [he, hspan, hempty]
    | minus => simp [he, hspan, hempty]
    | none =>
      obtain ⟨d, ds, rfl⟩ := List.exists_cons_of_ne_nil hn
      have hsign := ne_sign_of_isDigit (hd d (by simp))
      rw [List.cons_append] at hspan
      simp [he, hsign, hspan]

theorem PowerText.head_append {mark : List Char} {power : Option Int} (h : PowerText mark power)
    (hr : NumberEnds rest) : ∀ c ∈ (mark ++ rest).head?, isDigit c = false ∧ c ≠ '.' := by
  cases h with
  | absent => exact fun c hc => ⟨(hr c hc).1, (hr c hc).2.1⟩
  | given he =>
    rintro c hc
    obtain rfl := Option.some.inj hc
    rcases he with rfl | rfl <;> decide

theorem PowerText.head {mark : List Char} {power : Option Int} (h : PowerText mark power) :
    ∀ c ∈ mark.head?, isDigit c = false ∧ c ≠ '.' := by
  have hhead := h.head_append numberEnds_nil
  rwa [List.append_nil] at hhead

theorem readFraction?_append {point fraction mark : List Char} (h : FractionText point fraction)
    (hm : ∀ c ∈ mark.head?, isDigit c = false ∧ c ≠ '.') : readFraction? (point ++ mark) = some (fraction, mark) := by
  cases h with
  | absent =>
    rw [List.nil_append]
    unfold readFraction?
    split
    · exact absurd rfl (hm '.' rfl).2
    · rfl
  | given hd hn =>
    have hspan := spanDigits_of_head hd fun c hc => (hm c hc).1
    have hempty : fraction.isEmpty = false := by simpa using hn
    simp [readFraction?, hspan, hempty]

theorem head_of_point {point fraction mark : List Char} (h : FractionText point fraction)
    (hm : ∀ c ∈ mark.head?, isDigit c = false ∧ c ≠ '.') : ∀ c ∈ (point ++ mark).head?, isDigit c = false := by
  cases h with
  | absent => exact fun c hc => (hm c hc).1
  | given => exact fun c hc => (Option.some.inj hc) ▸ (by decide)

theorem NumberText.head {cs : List Char} {n : Number} (h : NumberText cs n) :
    ∃ c rest, cs = c :: rest ∧ (isDigit c = true ∨ c = '-') := by
  cases h with
  | intro hm hw =>
    obtain ⟨d, ds, rfl⟩ := List.exists_cons_of_ne_nil hw.ne_nil
    cases hm with
    | absent => exact ⟨d, _, rfl, .inl (hw.digits d (by simp))⟩
    | minus => exact ⟨'-', _, rfl, .inr rfl⟩

/-- A number is read up to what does not go on with it. -/
theorem readNumber?_append {cs : List Char} {n : Number} (h : NumberText cs n) (hr : NumberEnds rest) :
    readNumber? (cs ++ rest) = some (n, rest) := by
  cases h with
  | @intro minus whole point fraction mark negative power hm hw hf hp =>
    have hspan := spanDigits_of_head hw.digits (head_of_point hf (hp.head_append hr))
    have hfraction := readFraction?_append hf (hp.head_append hr)
    have hpower := readPower?_append hp hr
    have hshape : (whole.isEmpty || (whole.head? == some '0' && whole.length != 1)) = false := by
      have hempty : whole.isEmpty = false := by simpa using hw.ne_nil
      rcases hw.no_idle_zero with rfl | hz
      · rfl
      · simp [hempty, hz]
    simp only [List.append_assoc]
    unfold readNumber?
    cases hm with
    | minus => simp [hspan, hshape, hfraction, hpower]
    | absent =>
      obtain ⟨d, ds, rfl⟩ := List.exists_cons_of_ne_nil hw.ne_nil
      have hsign := ne_sign_of_isDigit (hw.digits d (by simp))
      have hzero : d = '0' → ds = [] := by
        rintro rfl
        rcases hw.no_idle_zero with hone | hhead
        · exact (List.cons.inj hone).2
        · exact absurd rfl hhead
      rw [List.cons_append] at hspan
      simpa [hsign, hspan, hfraction, hpower] using hzero

theorem readNumber?_of_numberText {cs : List Char} {n : Number} (h : NumberText cs n) :
    readNumber? cs = some (n, []) := by
  have hread := readNumber?_append h numberEnds_nil
  rwa [List.append_nil] at hread

theorem NumberText.unique {cs : List Char} {n n' : Number} (h : NumberText cs n) (h' : NumberText cs n') :
    n = n' := by
  have hread := readNumber?_of_numberText h
  rw [readNumber?_of_numberText h'] at hread
  exact (congrArg Prod.fst (Option.some.inj hread)).symm

/-! ## Values -/

/-- What begins with a quote is a string. -/
theorem ValueText.of_quote {cs : List Char} {v : Value} (h : ValueText ('"' :: cs) v) :
    ∃ body items, cs = body ++ ['"'] ∧ StringBody body items ∧ v = stringValue items := by
  cases h with
  | string hb => exact ⟨_, _, rfl, hb, rfl⟩
  | number hn =>
    obtain ⟨c, rest, hcons, hc⟩ := hn.head
    obtain ⟨rfl, -⟩ := List.cons.inj hcons
    exact absurd hc (by decide)

/-- What begins with a digit or a minus sign is a number. -/
theorem ValueText.of_number {c : Char} {cs : List Char} {v : Value} (hc : isDigit c = true ∨ c = '-')
    (h : ValueText (c :: cs) v) : ∃ n, NumberText (c :: cs) n ∧ v = .number n := by
  cases h with
  | number hn => exact ⟨_, hn, rfl⟩
  | _ => exact absurd hc (by decide)

theorem ValueText.of_letter {c : Char} {cs : List Char} {v : Value} (hc : c = 't' ∨ c = 'f')
    (h : ValueText (c :: cs) v) :
    (c :: cs = ['t', 'r', 'u', 'e'] ∧ v = .bool true) ∨ (c :: cs = ['f', 'a', 'l', 's', 'e'] ∧ v = .bool false) := by
  cases h with
  | yes => exact .inl ⟨rfl, rfl⟩
  | no => exact .inr ⟨rfl, rfl⟩
  | number hn =>
    obtain ⟨d, rest, hcons, hd⟩ := hn.head
    obtain ⟨rfl, -⟩ := List.cons.inj hcons
    rcases hc with rfl | rfl <;> exact absurd hd (by decide)
  | _ => exact absurd hc (by decide)

theorem Spaces.blanks {cs : List Char} (h : Spaces cs) : Blanks cs := by
  intro c hc
  have hspace := h c hc
  simp only [isSpace, Bool.or_eq_true, beq_iff_eq] at hspace
  rcases hspace with ((rfl | rfl) | rfl) | rfl <;> decide

/-- A text without spaces around it is a value. -/
theorem JsonText.value {cs : List Char} {v : Value} (h : JsonText cs v) (ht : Tight cs) : ValueText cs v := by
  cases h with
  | @intro before cs after v hb hv ha =>
    obtain rfl : after = [] := eq_nil_of_endsTight ht.2 ha.blanks
    rw [List.append_nil] at ht ⊢
    obtain rfl : before = [] := eq_nil_of_startsTight ht.1 hb.blanks
    exact hv

theorem ValueText.jsonText {cs : List Char} {v : Value} (h : ValueText cs v) : JsonText cs v := by
  have htext : JsonText ([] ++ cs ++ []) v := .intro (by simp [Spaces]) h (by simp [Spaces])
  simpa using htext

end FaultInjection.Json
