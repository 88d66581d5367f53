import FaultInjection.Text.Blank
import Mathlib.Data.List.TakeWhile

/-!
# Trimming as a decomposition

`trim` finds the tight middle of a text: `exists_trim` writes any text as blanks, its trimmed form
and blanks, `tight_trim` says that the middle neither starts nor ends with a blank, and
`trim_surround` that blanks around a text do not change what `trim` finds.
-/

namespace FaultInjection.Text

/-- A run of blanks, which may be empty. -/
def Blanks (cs : List Char) : Prop := ∀ c ∈ cs, isBlank c = true

/-- A text that does not start with a blank. -/
def StartsTight (cs : List Char) : Prop := ∀ c ∈ cs.head?, isBlank c = false

/-- A text that neither starts nor ends with a blank. -/
def Tight (cs : List Char) : Prop := StartsTight cs ∧ StartsTight cs.reverse

theorem Blanks.nil : Blanks [] := by simp [Blanks]

theorem Blanks.append {as bs : List Char} (ha : Blanks as) (hb : Blanks bs) : Blanks (as ++ bs) := by
  intro c hc
  exact (List.mem_append.1 hc).elim (ha c) (hb c)

theorem Blanks.of_append {as bs : List Char} (h : Blanks (as ++ bs)) : Blanks as ∧ Blanks bs :=
  ⟨fun c hc => h c (List.mem_append_left _ hc), fun c hc => h c (List.mem_append_right _ hc)⟩

theorem Blanks.reverse {cs : List Char} (h : Blanks cs) : Blanks cs.reverse :=
  fun c hc => h c (List.mem_reverse.1 hc)

theorem blanks_takeWhile (cs : List Char) : Blanks (cs.takeWhile isBlank) :=
  fun _ hc => List.mem_takeWhile_imp hc

/-- Blanks in front do not change what `trimStart` finds. -/
theorem trimStart_append {ws cs : List Char} (h : Blanks ws) : trimStart (ws ++ cs) = trimStart cs :=
  List.dropWhile_append_of_pos h

theorem startsTight_trimStart (cs : List Char) : StartsTight (trimStart cs) := by
  intro c hc
  have h := List.head?_dropWhile_not isBlank cs
  rw [trimStart] at hc
  rw [Option.mem_def.1 hc] at h
  simpa using h

theorem trimStart_of_startsTight {cs : List Char} (h : StartsTight cs) : trimStart cs = cs := by
  cases cs with
  | nil => rfl
  | cons c cs => exact List.dropWhile_cons_of_neg (by simp [h c (by simp)])

theorem exists_trimStart (cs : List Char) : ∃ ws, Blanks ws ∧ cs = ws ++ trimStart cs :=
  ⟨cs.takeWhile isBlank, blanks_takeWhile cs, List.takeWhile_append_dropWhile.symm⟩

theorem StartsTight.of_append {as bs : List Char} (h : StartsTight (as ++ bs)) : StartsTight as := by
  cases as with
  | nil => simp [StartsTight]
  | cons a as => simpa [StartsTight] using h

theorem startsTight_append {as : List Char} (h : StartsTight as) (hn : as ≠ []) (bs : List Char) :
    StartsTight (as ++ bs) := by
  cases as with
  | nil => exact absurd rfl hn
  | cons a as => simpa [StartsTight] using h

theorem startsTight_cons {c : Char} (h : isBlank c = false) (cs : List Char) : StartsTight (c :: cs) := by
  simpa [StartsTight] using h

/-- Two texts that are tight at their outer ends form a tight one. -/
theorem tight_append {as bs : List Char} (ha : StartsTight as) (hna : as ≠ [])
    (hb : StartsTight bs.reverse) (hnb : bs ≠ []) : Tight (as ++ bs) := by
  refine ⟨startsTight_append ha hna bs, ?_⟩
  rw [List.reverse_append]
  exact startsTight_append hb (by simpa using hnb) _

/-- A text between two characters that are not blank is tight. -/
theorem tight_between {a b : Char} (ha : isBlank a = false) (hb : isBlank b = false) (cs : List Char) :
    Tight (a :: cs ++ [b]) :=
  tight_append (startsTight_cons ha cs) (by simp) (startsTight_cons hb []) (by simp)

theorem tight_of_forall {cs : List Char} (h : ∀ c ∈ cs, isBlank c = false) : Tight cs :=
  ⟨fun c hc => h c (List.mem_of_mem_head? hc),
   fun c hc => h c (List.mem_reverse.1 (List.mem_of_mem_head? hc))⟩

theorem tight_of_any {cs : List Char} (h : cs.any isBlank = false) : Tight cs :=
  tight_of_forall fun c hc => by simpa using List.any_eq_false.1 h c hc

/-- A text that does not start with a blank has no blanks to lose at its start. -/
theorem eq_nil_of_startsTight {ws cs : List Char} (ht : StartsTight (ws ++ cs)) (hw : Blanks ws) :
    ws = [] := by
  cases ws with
  | nil => rfl
  | cons c ws =>
    have h1 : isBlank c = false := ht c (by simp)
    have h2 : isBlank c = true := hw c (by simp)
    simp [h1] at h2

/-- A text that does not end with a blank has no blanks to lose at its end. -/
theorem eq_nil_of_endsTight {as ws : List Char} (ht : StartsTight (as ++ ws).reverse) (hw : Blanks ws) :
    ws = [] := by
  rw [List.reverse_append] at ht
  exact List.reverse_eq_nil_iff.1 (eq_nil_of_startsTight ht hw.reverse)

theorem trim_of_tight {cs : List Char} (h : Tight cs) : trim cs = cs := by
  rw [trim, trimEnd, trimStart_of_startsTight h.1, trimStart_of_startsTight h.2, List.reverse_reverse]

/-- Blanks behind a text do not change what `trimEnd` finds. -/
theorem trimEnd_append {ws cs : List Char} (h : Blanks ws) : trimEnd (cs ++ ws) = trimEnd cs := by
  rw [trimEnd, trimEnd, List.reverse_append, trimStart_append h.reverse]

theorem trimEnd_of_tight {cs : List Char} (h : StartsTight cs.reverse) : trimEnd cs = cs := by
  rw [trimEnd, trimStart_of_startsTight h, List.reverse_reverse]

theorem exists_trimEnd (cs : List Char) : ∃ ws, Blanks ws ∧ cs = trimEnd cs ++ ws := by
  obtain ⟨ws, hw, h⟩ := exists_trimStart cs.reverse
  refine ⟨ws.reverse, hw.reverse, ?_⟩
  rw [trimEnd, ← List.reverse_append, ← h, List.reverse_reverse]

theorem startsTight_reverse_trimEnd (cs : List Char) : StartsTight (trimEnd cs).reverse := by
  rw [trimEnd, List.reverse_reverse]
  exact startsTight_trimStart _

/-- The trimmed form of a text is tight. -/
theorem tight_trim (cs : List Char) : Tight (trim cs) := by
  refine ⟨?_, startsTight_reverse_trimEnd _⟩
  obtain ⟨ws, -, h⟩ := exists_trimEnd (trimStart cs)
  have hs := startsTight_trimStart cs
  rw [h] at hs
  exact hs.of_append

/-- Any text is its trimmed form between blanks. -/
theorem exists_trim (cs : List Char) : ∃ before after, Blanks before ∧ Blanks after ∧
    cs = before ++ trim cs ++ after := by
  obtain ⟨before, hb, h1⟩ := exists_trimStart cs
  obtain ⟨after, ha, h2⟩ := exists_trimEnd (trimStart cs)
  refine ⟨before, after, hb, ha, ?_⟩
  rw [List.append_assoc, trim, ← h2, ← h1]

theorem trim_of_blanks {cs : List Char} (h : Blanks cs) : trim cs = [] := trim_eq_nil_iff.2 h

/-- Blanks around a text do not change what `trim` finds. -/
theorem trim_surround {before after : List Char} (hb : Blanks before) (ha : Blanks after)
    (cs : List Char) : trim (before ++ cs ++ after) = trim cs := by
  rw [List.append_assoc, trim, trimStart_append hb]
  by_cases hc : Blanks cs
  · rw [trim_of_blanks hc, ← trim, trim_of_blanks (hc.append ha)]
  · obtain ⟨ws, hw, h⟩ := exists_trimStart cs
    have hn : trimStart cs ≠ [] := fun he => hc (by rw [h, he, List.append_nil]; exact hw)
    rw [h, List.append_assoc, trimStart_append hw,
      trimStart_of_startsTight (startsTight_append (startsTight_trimStart cs) hn after),
      trimEnd_append ha, ← h, trim]

/-- A tight text is found again between blanks. -/
theorem trim_surround_of_tight {before after cs : List Char} (hb : Blanks before) (ha : Blanks after)
    (hc : Tight cs) : trim (before ++ cs ++ after) = cs := by
  rw [trim_surround hb ha, trim_of_tight hc]

/-- Trimming loses blanks only. -/
theorem mem_trim {c : Char} (hc : isBlank c = false) {cs : List Char} (h : c ∈ cs) : c ∈ trim cs := by
  obtain ⟨before, after, hb, ha, hcs⟩ := exists_trim cs
  rw [hcs] at h
  simp only [List.mem_append, or_assoc] at h
  rcases h with h | h | h
  · simp [hb c h] at hc
  · exact h
  · simp [ha c h] at hc

theorem trim_trim (cs : List Char) : trim (trim cs) = trim cs := trim_of_tight (tight_trim cs)

end FaultInjection.Text
