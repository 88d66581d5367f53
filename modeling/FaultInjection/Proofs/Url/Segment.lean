import FaultInjection.Proofs.Text.Percent
import FaultInjection.Proofs.Url.Base

/-!
# Texts as segments of a path

A text that is added to the path of an address becomes one segment, in which the slash and the percent
sign are encoded (`Path.push_of_text`). Only dots are left out: an encoded segment is read as dots if
the text was (`Segment.isSingleDot_encode`, `Segment.isDoubleDot_encode`).
-/

namespace FaultInjection.Url

open Text

/-- A text as a segment of an address with a special scheme. -/
def encoded (cs : List Char) : Segment := Percent.encode Encoding.specialSegment cs

theorem decode_encoded (cs : List Char) : Percent.decode (Utf8.encode (encoded cs)) = Utf8.encode cs :=
  Percent.decode_encode (by decide) cs

theorem slash_not_mem_encoded (cs : List Char) : '/' ∉ encoded cs := by
  intro hmem
  rcases Percent.mem_encode hmem with ⟨-, hescape⟩ | hpercent | ⟨n, hn, hdigit⟩
  · exact absurd hescape (by decide)
  · exact absurd hpercent (by decide)
  · have hall : ∀ n < 16, '/' ≠ Percent.upperHex n := by decide
    exact hall n hn hdigit

namespace Segment

/-- A segment that stays in its place was one dot. -/
theorem isSingleDot_encode {cs : List Char} (h : cs ≠ ".".toList) : isSingleDot (encoded cs) = false := by
  have hdots : ∀ s ∈ dots, Percent.decode (Utf8.encode s) = Utf8.encode ".".toList := by decide
  rw [isSingleDot, Bool.eq_false_iff, Ne, List.contains_iff_mem]
  intro hmem
  apply h
  apply Utf8.encode_injective
  rw [← decode_encoded, hdots _ hmem]

/-- A segment that goes up was two dots. -/
theorem isDoubleDot_encode {cs : List Char} (h : cs ≠ "..".toList) : isDoubleDot (encoded cs) = false := by
  have hdots : ∀ s ∈ dots, ∀ s' ∈ dots,
      Percent.decode (Utf8.encode (s ++ s')) = Utf8.encode "..".toList := by decide
  rw [isDoubleDot, Bool.eq_false_iff, Ne, List.any_eq_true]
  rintro ⟨s, hs, hany⟩
  obtain ⟨s', hs', heq⟩ := List.any_eq_true.1 hany
  apply h
  apply Utf8.encode_injective
  rw [← decode_encoded, beq_iff_eq.1 heq, hdots s hs s' hs']

end Segment

namespace Path

theorem text_cons (s : Segment) (p : Path) : text (s :: p) = '/' :: (s ++ text p) := rfl

theorem length_text_le {k : Nat} {p : Path} (h : ∀ s ∈ p, s.length ≤ k) :
    p.text.length ≤ (k + 1) * p.length := by
  induction p with
  | nil => exact Nat.zero_le _
  | cons s p ih =>
    obtain ⟨hs, htail⟩ := List.forall_mem_cons.1 h
    have hmore := ih htail
    rw [text_cons, List.length_cons, List.length_append, List.length_cons, Nat.mul_succ]
    omega

/-- The dots of a path add nothing to it. -/
theorem push_of_dots {kind : SchemeKind} {cs : List Char} (h : cs = ".".toList ∨ cs = "..".toList) (p : Path) :
    push kind p cs = p := by
  unfold push
  exact if_pos h

/-- Any other text is one more segment; the empty segment of the root makes way for it. -/
theorem push_of_text {usual : Nat} {cs : List Char} (hone : cs ≠ ".".toList) (htwo : cs ≠ "..".toList)
    (hvisible : significant cs = cs) (p : Path) :
    push (.network usual) p cs = (if p = [[]] then [] else p) ++ [encoded cs] := by
  have hextend : ∀ q : Path, extend true q (encoded cs) = q ++ [encoded cs] := by
    intro q
    rw [extend, Segment.isDoubleDot_encode htwo, Segment.isSingleDot_encode hone]
    rfl
  unfold push
  rw [if_neg (not_or.2 ⟨hone, htwo⟩)]
  dsimp only [normal, Progress.extend]
  simp only [reduceCtorEq, false_and, if_false]
  rw [hvisible]
  exact hextend _

end Path

end FaultInjection.Url
