import FaultInjection.Term.Basic
import FaultInjection.Proofs.Decimal.Numeral
import FaultInjection.Proofs.Text.Blank

/-!
# The grammar of terms

What a text has to look like to be a term, and what it then means, without regard to how it is
read. Each kind of text is a relation between characters and the value that they denote; the
largest is `ChainText`. Blanks may stand around a segment, behind a percentage or a count and its
sign, and around an argument and its parentheses.
-/

namespace FaultInjection

open Decimal Text

/-- An optional sign, and whether it is a minus sign. -/
inductive SignText : List Char → Bool → Prop where
  | none : SignText [] false
  | plus : SignText ['+'] false
  | minus : SignText ['-'] true

/-- A percentage: a decimal number whose nearest double lies above zero and up to one hundred. -/
inductive PercentageText : List Char → Binary64 → Prop where
  | intro {sign number digits : List Char} {negative : Bool} {places : Nat} {p : Binary64} :
      SignText sign negative → PointedDigits number digits places → Rounds negative digits places p →
      p.negative = false → 0 < p.units → p.units ≤ inUnits 100 → PercentageText (sign ++ number) p

/-- A count: digits behind an optional plus sign, for a positive number of sixty-four bits. -/
inductive CountText : List Char → Nat → Prop where
  | intro {plus digits : List Char} : plus = [] ∨ plus = ['+'] → AllDigits digits → digits ≠ [] →
      1 ≤ digitsValue digits → digitsValue digits ≤ 2 ^ 64 - 1 →
      CountText (plus ++ digits) (digitsValue digits)

/-- The characters that may follow a backslash, and what they stand for. -/
def escapes : List (Char × Char) :=
  [('"', '"'), ('\\', '\\'), ('n', '\n'), ('t', '\t'), ('r', '\r')]

/-- What stands between the quotes of a string, and the characters that it denotes. -/
inductive QuotedBody : List Char → List Char → Prop where
  | nil : QuotedBody [] []
  | plain {c : Char} {cs value : List Char} : c ≠ '"' → c ≠ '\\' → QuotedBody cs value →
      QuotedBody (c :: cs) (c :: value)
  | escape {e c : Char} {cs value : List Char} : (e, c) ∈ escapes → QuotedBody cs value →
      QuotedBody ('\\' :: e :: cs) (c :: value)

/-- A string between double quotes. -/
inductive StringText : List Char → String → Prop where
  | intro {body value : List Char} : QuotedBody body value →
      StringText ('"' :: body ++ ['"']) (String.ofList value)

/-- A number behind its sign: digits for an integer of sixty-four bits, or digits with a point after
the first of them for a finite double. -/
inductive NumberText : Bool → List Char → Literal → Prop where
  | positive {digits : List Char} : AllDigits digits → digits ≠ [] →
      digitsValue digits ≤ 2 ^ 63 - 1 → NumberText false digits (.integer (digitsValue digits))
  | negative {digits : List Char} : AllDigits digits → digits ≠ [] →
      digitsValue digits ≤ 2 ^ 63 → NumberText true digits (.integer (-(digitsValue digits : Int)))
  | float {negative : Bool} {whole fraction : List Char} {x : Binary64} : AllDigits whole →
      whole ≠ [] → AllDigits fraction → Rounds negative (whole ++ fraction) fraction.length x →
      NumberText negative (whole ++ '.' :: fraction) (.float x)

/-- A literal: a truth value, a number that may follow a minus sign, or a string. -/
inductive LiteralText : List Char → Literal → Prop where
  | yes : LiteralText "true".toList (.bool true)
  | no : LiteralText "false".toList (.bool false)
  | number {digits : List Char} {l : Literal} : NumberText false digits l → LiteralText digits l
  | minus {digits : List Char} {l : Literal} : NumberText true digits l → LiteralText ('-' :: digits) l
  | string {cs : List Char} {s : String} : StringText cs s → LiteralText cs (.string s)

/-- The duration of a pause: a duration that does not begin with a quote, or a string that holds one. -/
inductive PauseText : List Char → Duration → Prop where
  | bare {cs : List Char} {d : Duration} : cs.head? ≠ some '"' →
      Duration.parse (String.ofList cs) = .ok d → PauseText cs d
  | quoted {cs : List Char} {s : String} {d : Duration} : StringText cs s → Duration.parse s = .ok d →
      PauseText cs d

/-- A text in parentheses, with blanks around it and in front of them. -/
inductive Parenthesised : List Char → List Char → Prop where
  | intro {before within within' inner : List Char} : Blanks before → Blanks within →
      Blanks within' → Parenthesised inner (before ++ '(' :: (within ++ inner ++ within' ++ [')']))

/-- An argument that may be left out with its parentheses, or left empty within them. -/
inductive OptionalArgument {α : Type} (P : List Char → α → Prop) : List Char → Option α → Prop where
  | absent : OptionalArgument P [] none
  | empty {argument : List Char} : Parenthesised [] argument → OptionalArgument P argument none
  | given {inner argument : List Char} {x : α} : Parenthesised inner argument → P inner x →
      OptionalArgument P argument (some x)

/-- An action: its word, and an argument where it takes one. -/
inductive ActionText : List Char → Action → Prop where
  | off : ActionText "off".toList .off
  | ret {argument : List Char} {value : Option Literal} :
      OptionalArgument LiteralText argument value → ActionText ("return".toList ++ argument) (.ret value)
  | sleep {inner argument : List Char} {d : Duration} : Parenthesised inner argument →
      PauseText inner d → ActionText ("sleep".toList ++ argument) (.sleep d)
  | panic {argument : List Char} {message : Option String} :
      OptionalArgument StringText argument message →
      ActionText ("panic".toList ++ argument) (.panic message)
  | print {argument : List Char} {message : Option String} :
      OptionalArgument StringText argument message →
      ActionText ("print".toList ++ argument) (.print message)

/-- A number with its sign in front of what it governs, or nothing. -/
inductive GateText {α : Type} (delimiter : Char) (P : List Char → α → Prop) :
    List Char → Option α → Prop where
  | absent : GateText delimiter P [] none
  | given {number before after : List Char} {x : α} : P number x → Blanks before → Blanks after →
      GateText delimiter P (number ++ before ++ delimiter :: after) (some x)

/-- A segment: an optional percentage, an optional count, and an action. -/
inductive SegmentText : List Char → Segment → Prop where
  | intro {before percentage count action after : List Char} {p : Option Binary64} {n : Option Nat}
      {a : Action} : Blanks before → GateText '%' PercentageText percentage p →
      GateText '*' CountText count n → ActionText action a → Blanks after →
      SegmentText (before ++ (percentage ++ (count ++ action)) ++ after) ⟨p, n, a⟩

/-- A chain: one or more segments with arrows between them. -/
inductive ChainText : List Char → List Segment → Prop where
  | last {cs : List Char} {s : Segment} : SegmentText cs s → ChainText cs [s]
  | cons {cs rest : List Char} {s : Segment} {ss : List Segment} : SegmentText cs s →
      ChainText rest ss → ChainText (cs ++ '-' :: '>' :: rest) (s :: ss)

theorem isBlank_of_isDigit {c : Char} (h : isDigit c = true) : isBlank c = false := by
  obtain ⟨hlo, hhi⟩ := bounds_of_isDigit h
  simp only [isBlank, Bool.or_eq_false_iff, Bool.and_eq_false_iff, decide_eq_false_iff_not, beq_eq_false_iff_ne]
  omega

/-- Digits, with or without a point, are tight. -/
theorem NumberText.tight {negative : Bool} {cs : List Char} {l : Literal} (h : NumberText negative cs l) :
    Tight cs := by
  have hdigits : ∀ {ds : List Char}, AllDigits ds → ∀ c ∈ ds, isBlank c = false :=
    fun hd c hc => isBlank_of_isDigit (hd c hc)
  refine tight_of_forall ?_
  cases h with
  | positive hd => exact hdigits hd
  | negative hd => exact hdigits hd
  | float hw _ hf _ =>
    exact List.forall_mem_append.2 ⟨hdigits hw, List.forall_mem_cons.2 ⟨by decide, hdigits hf⟩⟩

theorem NumberText.ne_nil {negative : Bool} {cs : List Char} {l : Literal} (h : NumberText negative cs l) :
    cs ≠ [] := by
  cases h with
  | positive _ hn => exact hn
  | negative _ hn => exact hn
  | float => simp

theorem StringText.tight {cs : List Char} {s : String} (h : StringText cs s) : Tight cs := by
  cases h with
  | intro _ => exact tight_between (by decide) (by decide) _

theorem StringText.ne_nil {cs : List Char} {s : String} (h : StringText cs s) : cs ≠ [] := by
  cases h with
  | intro _ => simp

theorem LiteralText.tight {cs : List Char} {l : Literal} (h : LiteralText cs l) : Tight cs := by
  cases h with
  | yes => exact tight_of_any (by decide)
  | no => exact tight_of_any (by decide)
  | number hn => exact hn.tight
  | @minus digits _ hn =>
    have hminus : StartsTight ['-'] := startsTight_cons (by decide) []
    exact tight_append hminus (by simp) hn.tight.2 hn.ne_nil
  | string hs => exact hs.tight

theorem LiteralText.ne_nil {cs : List Char} {l : Literal} (h : LiteralText cs l) : cs ≠ [] := by
  cases h with
  | yes => decide
  | no => decide
  | number hn => exact hn.ne_nil
  | minus _ => simp
  | string hs => exact hs.ne_nil

end FaultInjection
