import FaultInjection.Proofs.Duration.Row

/-!
# The characters of a duration

A duration is made of digits or of a row of components, and either is made of the few characters of
`isDurationChar`. So is every text that is read as a duration, but for the blanks around it:
`forall_of_parse`.
-/

namespace FaultInjection.Duration

open Decimal Text

/-- The characters of components: digits, the point, and the letters of units. -/
def isDurationChar (c : Char) : Bool := isDigit c || c ∈ ['.', 'n', 'u', 'µ', 'm', 's', 'h']

theorem isDurationChar_of_isDigit {c : Char} (h : isDigit c = true) : isDurationChar c = true := by
  simp [isDurationChar, h]

theorem AmountText.isDurationChar {number whole fraction : List Char} (h : AmountText number whole fraction) :
    ∀ c ∈ number, isDurationChar c = true := by
  have hdigits : ∀ {ds : List Char}, AllDigits ds → ∀ c ∈ ds, Duration.isDurationChar c = true :=
    fun hd c hc => isDurationChar_of_isDigit (hd c hc)
  cases h with
  | whole hw _ => exact hdigits hw
  | pointed hw hf _ =>
    exact List.forall_mem_append.2 ⟨hdigits hw, List.forall_mem_cons.2 ⟨by decide, hdigits hf⟩⟩

theorem UnitText.isDurationChar {unit : List Char} {u : Nat} (h : UnitText unit u) :
    ∀ c ∈ unit, isDurationChar c = true := by
  have hall : unit.all Duration.isDurationChar = true := by cases h <;> decide
  exact List.all_eq_true.1 hall

theorem RowText.isDurationChar {cs : List Char} {ns : List Nat} (h : RowText cs ns) :
    ∀ c ∈ cs, isDurationChar c = true := by
  induction h with
  | nil => simp
  | cons hcomponent _ ih =>
    cases hcomponent with
    | intro hamount hu =>
      have hfirst := List.forall_mem_append.2 ⟨hamount.isDurationChar, hu.isDurationChar⟩
      exact List.forall_mem_append.2 ⟨hfirst, ih⟩

/-- A duration is made of blanks and the characters of components. -/
theorem forall_of_parse {cs : List Char} {d : Duration} (h : parse (String.ofList cs) = .ok d) :
    ∀ c ∈ cs, isBlank c = true ∨ isDurationChar c = true := by
  have hmiddle : ∀ c ∈ trim cs, isDurationChar c = true := by
    rw [← String.toList_ofList (l := cs)]
    by_cases hd : AllDigits (trim (String.ofList cs).toList)
    · exact fun c hc => isDurationChar_of_isDigit (hd c hc)
    · obtain ⟨ns, hrow, -⟩ := (parse_of_row hd).1 h
      exact hrow.isDurationChar
  obtain ⟨before, after, hb, ha, hcs⟩ := exists_trim cs
  intro c hc
  rw [hcs] at hc
  simp only [List.mem_append, or_assoc] at hc
  rcases hc with hc | hc | hc
  · exact .inl (hb c hc)
  · exact .inr (hmiddle c hc)
  · exact .inl (ha c hc)

/-- Blanks around a text make no difference to it as a duration. -/
theorem parse_trim (cs : List Char) :
    parse (String.ofList (trim cs)) = parse (String.ofList cs) := by
  rw [parse, parse, String.toList_ofList, String.toList_ofList, trim_trim]

end FaultInjection.Duration
