import FaultInjection.Http.Message
import FaultInjection.Proofs.Text.Utf8
import Mathlib.Data.List.TakeWhile

/-!
# Paths as request targets

A path of characters that may stand there is read as it was written, if it is not too long
(`Target.parse?_of_path`).
-/

namespace FaultInjection.Http.Target

open Text

variable {cs : List Char}

theorem ne_of_isPathChar {c d : Char} (h : isPathChar c = true) (hd : isPathChar d = false) : c ≠ d := by
  rintro rfl
  rw [hd] at h
  exact Bool.false_ne_true h

theorem ofPathAndQuery?_of_path (hne : cs ≠ []) (h : ∀ c ∈ cs, isPathChar c = true) :
    ofPathAndQuery? cs = some ⟨cs, none⟩ := by
  have hfragment : ∀ c ∈ cs, (c != '#') = true :=
    fun c hc => bne_iff_ne.2 (ne_of_isPathChar (h c hc) (by decide))
  have hquery : ∀ c ∈ cs, (c != '?') = true :=
    fun c hc => bne_iff_ne.2 (ne_of_isPathChar (h c hc) (by decide))
  have hdrop : dropFragment cs = cs := List.takeWhile_eq_self_iff.2 hfragment
  have htake : cs.takeWhile (· != '?') = cs := List.takeWhile_eq_self_iff.2 hquery
  have hnone : cs.dropWhile (· != '?') = [] := List.dropWhile_eq_nil_iff.2 hquery
  have hnil : cs.isEmpty = false := List.isEmpty_eq_false_iff.2 hne
  have hall : cs.all isPathChar = true := List.all_eq_true.2 h
  unfold ofPathAndQuery?
  dsimp only
  rw [hdrop, htake, hnone, hnil, hall]
  rfl

/-- A path is read as it was written. -/
theorem parse?_of_path (h : ∀ c ∈ cs, isPathChar c = true) (hlength : 4 * (cs.length + 1) ≤ maxLength) :
    parse? (String.ofList ('/' :: cs)) = some ⟨'/' :: cs, none⟩ := by
  have hsize : ¬ maxLength < (String.ofList ('/' :: cs)).utf8ByteSize := by
    have hbytes := Utf8.length_encode_le ('/' :: cs)
    rw [← Utf8.length_bytes, Utf8.bytes_ofList]
    exact Nat.not_lt.2 (Nat.le_trans hbytes hlength)
  rw [parse?, if_neg hsize, String.toList_ofList]
  exact ofPathAndQuery?_of_path (List.cons_ne_nil _ _) (List.forall_mem_cons.2 ⟨by decide, h⟩)

end FaultInjection.Http.Target
