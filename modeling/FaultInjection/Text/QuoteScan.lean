/-!
# What stands inside a quoted string

Bulk texts and terms may hold double-quoted strings in which a backslash protects the next
character. `QuoteState.step` follows such a text character by character; a character stands
outside every string when the scan is `outside` before it and it is no quote itself.

`pieces` cuts a text at every delimiter that stands outside, and `cutFirst` at the first of them.
Main lemmas: `pieces_ne_nil`, and `intercalate_pieces`, which says that cutting loses nothing.
-/

namespace FaultInjection.Text

/-- Where a scan stands: outside strings, inside one, or just after a backslash inside one. -/
inductive QuoteState where
  | outside
  | inside
  | escaped
  deriving DecidableEq, Repr

namespace QuoteState

/-- The state after one more character. -/
def step : QuoteState → Char → QuoteState
  | outside, c => if c = '"' then inside else outside
  | inside, c => if c = '\\' then escaped else if c = '"' then outside else inside
  | escaped, _ => inside

/-- The state after a whole text. -/
def scan (q : QuoteState) (cs : List Char) : QuoteState := cs.foldl step q

@[simp] theorem scan_nil (q : QuoteState) : q.scan [] = q := rfl

@[simp] theorem scan_cons (q : QuoteState) (c : Char) (cs : List Char) :
    q.scan (c :: cs) = (q.step c).scan cs := rfl

theorem scan_append (q : QuoteState) (as bs : List Char) :
    q.scan (as ++ bs) = (q.scan as).scan bs := List.foldl_append

end QuoteState

/-- Put one character in front of the first piece. -/
def consFirst (c : Char) : List (List Char) → List (List Char)
  | [] => [[c]]
  | p :: ps => (c :: p) :: ps

/-- The pieces of a text between the occurrences of `d` that stand outside strings. -/
def pieces (d : Char) : QuoteState → List Char → List (List Char)
  | _, [] => [[]]
  | q, c :: cs =>
    if q = .outside ∧ c = d then [] :: pieces d .outside cs
    else consFirst c (pieces d (q.step c) cs)

/-- The text before and after the first `d` that stands outside strings. -/
def cutFirst (d : Char) : QuoteState → List Char → Option (List Char × List Char)
  | _, [] => none
  | q, c :: cs =>
    if q = .outside ∧ c = d then some ([], cs)
    else (cutFirst d (q.step c) cs).map fun (before, after) => (c :: before, after)

theorem consFirst_ne_nil (c : Char) (ps : List (List Char)) : consFirst c ps ≠ [] := by
  cases ps <;> simp [consFirst]

theorem pieces_ne_nil (d : Char) (q : QuoteState) (cs : List Char) : pieces d q cs ≠ [] := by
  cases cs with
  | nil => simp [pieces]
  | cons c cs =>
    rw [pieces]
    split
    · simp
    · exact consFirst_ne_nil c _

theorem intercalate_consFirst {d : List Char} {c : Char} {ps : List (List Char)} (h : ps ≠ []) :
    d.intercalate (consFirst c ps) = c :: d.intercalate ps := by
  match ps, h with
  | [p], _ => simp [consFirst, List.intercalate]
  | p :: p' :: ps, _ => simp [consFirst, List.intercalate]

theorem intercalate_pieces (d : Char) (q : QuoteState) (cs : List Char) :
    [d].intercalate (pieces d q cs) = cs := by
  induction cs generalizing q with
  | nil => simp [pieces, List.intercalate]
  | cons c cs ih =>
    rw [pieces]
    split
    · next h =>
      obtain ⟨p, ps, hp⟩ := List.exists_cons_of_ne_nil (pieces_ne_nil d .outside cs)
      have := ih .outside
      rw [hp] at this ⊢
      simp only [List.intercalate, List.intersperse_cons_cons, List.flatten_cons, List.nil_append] at this ⊢
      rw [this, h.2]
      rfl
    · rw [intercalate_consFirst (pieces_ne_nil d _ cs), ih]

end FaultInjection.Text
