import FaultInjection.Name
import FaultInjection.Proofs.Text.Blank

/-!
# What a name holds

A name is not empty and holds no delimiter, so no blank either; it is what remains when it is trimmed.
-/

namespace FaultInjection.Name

open Text

theorem isDelimiter_eq_false (n : Name) : ∀ c ∈ n.text.toList, isDelimiter c = false := by
  have hchars := (List.append_eq_nil_iff.1 n.faults_eq_nil).2
  unfold characterFaults at hchars
  split at hchars
  · simp at hchars
  · split at hchars
    · simp at hchars
    · next h => simpa using h

theorem not_mem_of_isDelimiter (n : Name) {d : Char} (hd : isDelimiter d = true) : d ∉ n.text.toList := by
  intro hmem
  rw [n.isDelimiter_eq_false d hmem] at hd
  exact Bool.false_ne_true hd

theorem not_isBlank (n : Name) {c : Char} (hc : c ∈ n.text.toList) : isBlank c = false := by
  have hdelimiter := n.isDelimiter_eq_false c hc
  simp only [isDelimiter, Bool.or_eq_false_iff] at hdelimiter
  exact hdelimiter.2

theorem tight (n : Name) : Tight n.text.toList := tight_of_forall fun _ => n.not_isBlank

theorem ne_nil (n : Name) : n.text.toList ≠ [] := by
  intro hnil
  have hlength := (List.append_eq_nil_iff.1 n.faults_eq_nil).1
  simp [lengthFaults, hnil] at hlength

theorem length_le (n : Name) : n.text.toList.length ≤ 256 := by
  have hlength := (List.append_eq_nil_iff.1 n.faults_eq_nil).1
  unfold lengthFaults at hlength
  split at hlength
  · next h => exact h.2
  · cases hlength

/-- The first character of a name is neither a blank nor a semicolon. -/
theorem exists_cons (n : Name) : ∃ c cs, n.text.toList = c :: cs ∧ isBlank c = false ∧ c ≠ ';' := by
  obtain ⟨c, cs, hc⟩ := List.exists_cons_of_ne_nil n.ne_nil
  have hmem : c ∈ n.text.toList := by simp [hc]
  refine ⟨c, cs, hc, n.not_isBlank hmem, ?_⟩
  rintro rfl
  exact n.not_mem_of_isDelimiter (by decide) hmem

end FaultInjection.Name
