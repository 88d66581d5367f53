import FaultInjection.Proofs.Term.Parse

/-!
# Every string in a term

A term can carry any string. Quotes and backslashes in it are escaped, line breaks, tabs and carriage
returns may be, each by itself (`Escapes`); these are all the ways to write the string (`escapes_iff`). The
string comes back from each of them, as a value or a message and between any other segments, whatever
delimiters it holds: `string_carried`.
-/

namespace FaultInjection

open Text

/-- How a character may be written between quotes. -/
def spellings (c : Char) : List (List Char) :=
  match c with
  | '"' => [['\\', '"']]
  | '\\' => [['\\', '\\']]
  | '\n' => [['\n'], ['\\', 'n']]
  | '\t' => [['\t'], ['\\', 't']]
  | '\r' => [['\r'], ['\\', 'r']]
  | c => [[c]]

/-- A text with every character in one of its spellings. -/
inductive Escapes : List Char → List Char → Prop where
  | nil : Escapes [] []
  | cons {c : Char} {w cs text : List Char} : w ∈ spellings c → Escapes cs text →
      Escapes (c :: cs) (w ++ text)

theorem spellings_ne_nil (c : Char) : spellings c ≠ [] := by
  unfold spellings
  split <;> simp

/-- A character stands for itself unless it is a quote or a backslash, or it is escaped. -/
theorem mem_spellings_iff {c : Char} {w : List Char} : w ∈ spellings c ↔
    (c ≠ '"' ∧ c ≠ '\\' ∧ w = [c]) ∨ ∃ e, (e, c) ∈ escapes ∧ w = ['\\', e] := by
  unfold spellings
  split <;> simp_all [escapes]

theorem exists_escapes (cs : List Char) : ∃ text, Escapes cs text := by
  induction cs with
  | nil => exact ⟨[], .nil⟩
  | cons c cs ih =>
    obtain ⟨text, htext⟩ := ih
    obtain ⟨w, hw⟩ := List.exists_mem_of_ne_nil _ (spellings_ne_nil c)
    exact ⟨w ++ text, .cons hw htext⟩

/-- The ways to write a text are the bodies of strings that denote it. -/
theorem escapes_iff {cs text : List Char} : Escapes cs text ↔ QuotedBody text cs := by
  constructor
  · intro h
    induction h with
    | nil => exact .nil
    | cons hw _ ih =>
      obtain ⟨hq, hb, rfl⟩ | ⟨e, he, rfl⟩ := mem_spellings_iff.1 hw
      · exact .plain hq hb ih
      · exact .escape he ih
  · intro h
    induction h with
    | nil => exact .nil
    | plain hq hb _ ih => exact .cons (mem_spellings_iff.2 (.inl ⟨hq, hb, rfl⟩)) ih
    | escape he _ ih => exact .cons (mem_spellings_iff.2 (.inr ⟨_, he, rfl⟩)) ih

/-! ## Segments and chains -/

theorem parenthesised (inner : List Char) : Parenthesised inner ('(' :: (inner ++ [')'])) := by
  have h : Parenthesised inner ([] ++ '(' :: ([] ++ inner ++ [] ++ [')'])) := .intro .nil .nil .nil
  simpa using h

/-- An action by itself is a segment. -/
theorem ActionText.segment {cs : List Char} {a : Action} (h : ActionText cs a) :
    SegmentText cs ⟨none, none, a⟩ := by
  have hs : SegmentText ([] ++ ([] ++ ([] ++ cs)) ++ []) ⟨none, none, a⟩ := .intro .nil .absent .absent h .nil
  simpa using hs

/-- Chains with an arrow between them are a chain. -/
theorem ChainText.append {cs ds : List Char} {ss ts : List Segment} (h : ChainText cs ss)
    (h' : ChainText ds ts) : ChainText (cs ++ '-' :: '>' :: ds) (ss ++ ts) := by
  induction h with
  | last hs => exact .cons hs h'
  | cons hs _ ih =>
    rw [List.append_assoc, List.cons_append, List.cons_append]
    exact .cons hs ih

/-- The actions that take a string, with their words. -/
def stringActions (s : String) : List (String × Action) :=
  [("return", .ret (some (.string s))), ("panic", .panic (some s)), ("print", .print (some s))]

theorem actionText_of_string {cs : List Char} {s word : String} {a : Action} (h : StringText cs s)
    (hw : (word, a) ∈ stringActions s) : ActionText (word.toList ++ '(' :: (cs ++ [')'])) a := by
  have hp := parenthesised cs
  simp only [stringActions, List.mem_cons, List.not_mem_nil, or_false, Prod.mk.injEq] at hw
  obtain ⟨rfl, rfl⟩ | ⟨rfl, rfl⟩ | ⟨rfl, rfl⟩ := hw
  · exact .ret (.given hp (.string h))
  · exact .panic (.given hp h)
  · exact .print (.given hp h)

/-- A term that passes a string to an action, between two other terms. -/
def carrying (a word : String) (text : List Char) (b : String) : String :=
  a ++ "->" ++ word ++ "(\"" ++ String.ofList text ++ "\")->" ++ b

theorem toList_carrying (a word : String) (text : List Char) (b : String) :
    (carrying a word text b).toList = a.toList ++ '-' :: '>' ::
      ((word.toList ++ '(' :: (('"' :: text ++ ['"']) ++ [')'])) ++ '-' :: '>' :: b.toList) := by
  simp [carrying]

/-- Every string can be written between quotes. However that is done, and whichever of the three actions
takes the string, a term with it between any two other terms is accepted, and its segments are those of
the first, one with the string, and those of the second. -/
theorem string_carried (a b : String) (t t' : Term) (ha : Term.parse a = .ok t) (hb : Term.parse b = .ok t')
    (s : String) : (∃ text, Escapes s.toList text) ∧
    ∀ text, Escapes s.toList text → ∀ word action, (word, action) ∈ stringActions s →
      Term.parse (carrying a word text b) =
        .ok ⟨carrying a word text b, t.segments ++ ⟨none, none, action⟩ :: t'.segments⟩ := by
  refine ⟨exists_escapes s.toList, fun text htext word action hw => parse_of_chainText ?_⟩
  have hstring : StringText ('"' :: text ++ ['"']) s := by
    have hs := StringText.intro (escapes_iff.1 htext)
    rwa [String.ofList_toList] at hs
  have hsegment := (actionText_of_string hstring hw).segment
  rw [toList_carrying]
  exact (chainText_of_parse ha).2.append (.cons hsegment (chainText_of_parse hb).2)

/-- A string of delimiters, with a quote at either end and backslashes in front of the last one. -/
def delimiterString : String := "\"->% *);=\n\t\\\\\""

/-- The string is read back, with its line break escaped and its tab left as it is. -/
theorem string_carried_delimiterString :
    Term.parse "50%off->print(\"\\\"->% *);=\\n\t\\\\\\\\\\\"\")->2*off" =
      .ok ⟨"50%off->print(\"\\\"->% *);=\\n\t\\\\\\\\\\\"\")->2*off",
        [⟨some .fifty, none, .off⟩, ⟨none, none, .print (some delimiterString)⟩, ⟨none, some 2, .off⟩]⟩ := by
  have ha : Term.parse "50%off" = .ok ⟨"50%off", [⟨some .fifty, none, .off⟩]⟩ := by decide +kernel
  have hb : Term.parse "2*off" = .ok ⟨"2*off", [⟨none, some 2, .off⟩]⟩ := by decide +kernel
  have hread : readQuoted ("\\\"->% *);=\\n\t\\\\\\\\\\\"".toList ++ ['"']) = .ok (delimiterString.toList, []) := by
    decide +kernel
  obtain ⟨body, hbody, heq⟩ := readQuoted_eq_ok_iff.1 hread
  have htext : Escapes delimiterString.toList "\\\"->% *);=\\n\t\\\\\\\\\\\"".toList := by
    rw [List.append_cancel_right heq]
    exact escapes_iff.2 hbody
  exact (string_carried _ _ _ _ ha hb delimiterString).2 _ htext "print" _ (by simp [stringActions])

end FaultInjection
