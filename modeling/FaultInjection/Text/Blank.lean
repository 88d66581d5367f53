/-!
# Blank characters and trimming

Text of terms, durations and assignments may be surrounded by any characters with the Unicode
property White_Space. `trim` removes them from both ends of a character list; `trim_eq_nil_iff`
says that it leaves nothing exactly when every character is blank.
-/

namespace FaultInjection.Text

/-- The twenty-five characters with the property White_Space. -/
def isBlank (c : Char) : Bool :=
  let n := c.toNat
  (0x9 ≤ n && n ≤ 0xD) || n == 0x20 || n == 0x85 || n == 0xA0 || n == 0x1680
    || (0x2000 ≤ n && n ≤ 0x200A) || n == 0x2028 || n == 0x2029 || n == 0x202F
    || n == 0x205F || n == 0x3000

/-- The text without the blanks it starts with. -/
def trimStart (cs : List Char) : List Char := cs.dropWhile isBlank

/-- The text without the blanks it ends with. -/
def trimEnd (cs : List Char) : List Char := (trimStart cs.reverse).reverse

/-- The text without the blanks around it. -/
def trim (cs : List Char) : List Char := trimEnd (trimStart cs)

/-- `trim` on strings. -/
def trimmed (s : String) : String := String.ofList (trim s.toList)

/-- Whether a string holds blanks only. -/
def isBlankText (s : String) : Bool := s.toList.all isBlank

theorem trimStart_eq_nil_iff {cs : List Char} : trimStart cs = [] ↔ ∀ c ∈ cs, isBlank c := by
  induction cs with
  | nil => simp [trimStart]
  | cons c cs ih =>
    by_cases h : isBlank c
    · rw [List.forall_mem_cons, ← ih]
      simp [trimStart, h]
    · simp [trimStart, h]

theorem trim_eq_nil_iff {cs : List Char} : trim cs = [] ↔ ∀ c ∈ cs, isBlank c := by
  rw [trim, trimEnd, List.reverse_eq_nil_iff, trimStart_eq_nil_iff]
  constructor
  · intro h
    by_cases hn : trimStart cs = []
    · exact trimStart_eq_nil_iff.1 hn
    · have hd : ¬ isBlank ((trimStart cs).head hn) = true := by
        have := List.head_dropWhile_not isBlank (l := cs) hn
        simpa [trimStart] using this
      exact absurd (h _ (List.mem_reverse.2 (List.head_mem hn))) hd
  · intro h c hc
    rw [trimStart_eq_nil_iff.2 h] at hc
    simp at hc

end FaultInjection.Text
