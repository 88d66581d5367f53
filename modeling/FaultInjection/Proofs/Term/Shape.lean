import FaultInjection.Proofs.Duration
import FaultInjection.Proofs.Term.Grammar
import FaultInjection.Proofs.Text.QuoteScan

/-!
# Where delimiters may stand in a term

Outside its strings a term has no character that ends something larger: no head of an arrow within
a segment, and no semicolon and no equals sign at all (`SegmentText.isSealed`, `ChainText.isSealed`).
The quotes of its strings are also those that a scan for quotes finds.
-/

namespace FaultInjection

open Decimal Text

/-- The characters that end a segment, an entry of a bulk text, or a name in it. -/
def Delimits (c : Char) : Prop := c ∈ ['>', ';', '=']

/-- The characters on which a scan for quotes and delimiters acts. -/
def scanned : List Char := ['"', '>', ';', '=']

theorem sealed_of_not_scanned {cs : List Char} (h : cs.any (· ∈ scanned) = false) :
    Sealed Delimits cs := by
  have hnone : ∀ c ∈ cs, c ∉ scanned := by simpa using h
  refine sealed_of_forall fun c hc => ⟨?_, ?_⟩
  · rintro rfl
    exact hnone _ hc (by decide)
  · intro hd
    exact hnone c hc (List.mem_cons_of_mem _ hd)

/-- A class of characters that excludes the scanned ones gives sealed texts. -/
theorem sealed_of_class {p : Char → Bool} (hp : scanned.any p = false) {cs : List Char}
    (h : ∀ c ∈ cs, p c = true) : Sealed Delimits cs := by
  have hnone : ∀ c ∈ cs, c ∉ scanned := fun c hc hm => List.any_eq_false.1 hp c hm (h c hc)
  apply sealed_of_not_scanned
  simpa using hnone

theorem Text.Blanks.isSealed {cs : List Char} (h : Blanks cs) : Sealed Delimits cs :=
  sealed_of_class (by decide) h

theorem Decimal.AllDigits.isSealed {cs : List Char} (h : AllDigits cs) : Sealed Delimits cs :=
  sealed_of_class (by decide) h

theorem sealed_cons {c : Char} (hc : c ∉ scanned) {cs : List Char} (h : Sealed Delimits cs) :
    Sealed Delimits (c :: cs) := by
  have h1 : Sealed Delimits [c] := sealed_of_not_scanned (by simpa using hc)
  exact h1.append h

theorem sealed_singleton {c : Char} (hc : c ∉ scanned) : Sealed Delimits [c] :=
  sealed_cons hc sealed_nil

/-! ## Strings -/

/-- An escape is neither a quote in the eyes of the scan nor the end of it. -/
theorem QuotedBody.sealedFrom {bad : Char → Prop} {body value : List Char} (h : QuotedBody body value) :
    SealedFrom bad .inside (body ++ ['"']) := by
  induction h with
  | nil => exact ⟨by simp, rfl⟩
  | @plain c cs value hq hb _ ih =>
    refine ⟨by simp, ?_⟩
    have hstep : QuoteState.inside.step c = .inside := by simp [QuoteState.step, hq, hb]
    rw [hstep]
    exact ih
  | escape _ _ ih =>
    refine ⟨by simp, ?_⟩
    have hstep : QuoteState.inside.step '\\' = .escaped := rfl
    rw [hstep]
    exact ⟨by simp, ih⟩

theorem StringText.isSealed {cs : List Char} {s : String} (h : StringText cs s) : Sealed Delimits cs := by
  cases h with
  | intro h => exact ⟨fun _ => by simp [Delimits], h.sealedFrom⟩

/-! ## Numbers and literals -/

theorem SignText.isSealed {cs : List Char} {negative : Bool} (h : SignText cs negative) :
    Sealed Delimits cs := by
  cases h <;> exact sealed_of_not_scanned (by decide)

theorem pointed_isSealed {whole fraction : List Char} (hw : AllDigits whole) (hf : AllDigits fraction) :
    Sealed Delimits (whole ++ '.' :: fraction) :=
  hw.isSealed.append (sealed_cons (by decide) hf.isSealed)

theorem PercentageText.isSealed {cs : List Char} {p : Binary64} (h : PercentageText cs p) :
    Sealed Delimits cs := by
  cases h with
  | intro hs hn =>
    cases hn with
    | whole hd _ => exact hs.isSealed.append hd.isSealed
    | pointed hw hf _ => exact hs.isSealed.append (pointed_isSealed hw hf)

theorem CountText.isSealed {cs : List Char} {n : Nat} (h : CountText cs n) : Sealed Delimits cs := by
  cases h with
  | intro hplus hd =>
    rcases hplus with rfl | rfl
    · exact hd.isSealed
    · exact sealed_cons (by decide) hd.isSealed

theorem NumberText.isSealed {negative : Bool} {cs : List Char} {l : Literal}
    (h : NumberText negative cs l) : Sealed Delimits cs := by
  cases h with
  | positive hd => exact hd.isSealed
  | negative hd => exact hd.isSealed
  | float hw _ hf _ => exact pointed_isSealed hw hf

theorem LiteralText.isSealed {cs : List Char} {l : Literal} (h : LiteralText cs l) :
    Sealed Delimits cs := by
  cases h with
  | yes => exact sealed_of_not_scanned (by decide)
  | no => exact sealed_of_not_scanned (by decide)
  | number hn => exact hn.isSealed
  | minus hn => exact sealed_cons (by decide) hn.isSealed
  | string hs => exact hs.isSealed

theorem PauseText.isSealed {cs : List Char} {d : Duration} (h : PauseText cs d) : Sealed Delimits cs := by
  cases h with
  | bare _ hd =>
    refine sealed_of_class (p := fun c => isBlank c || Duration.isDurationChar c) (by decide) ?_
    intro c hc
    simpa using Duration.forall_of_parse hd c hc
  | quoted hs _ => exact hs.isSealed

/-! ## Actions, segments and chains -/

theorem Parenthesised.isSealed {inner cs : List Char} (hi : Sealed Delimits inner)
    (h : Parenthesised inner cs) : Sealed Delimits cs := by
  cases h with
  | intro hb hw hw' =>
    refine hb.isSealed.append (sealed_cons (by decide) ?_)
    exact ((hw.isSealed.append hi).append hw'.isSealed).append (sealed_singleton (by decide))

theorem OptionalArgument.isSealed {α : Type} {P : List Char → α → Prop}
    (hP : ∀ {cs x}, P cs x → Sealed Delimits cs) {cs : List Char} {o : Option α}
    (h : OptionalArgument P cs o) : Sealed Delimits cs := by
  cases h with
  | absent => exact sealed_nil
  | empty hp => exact hp.isSealed sealed_nil
  | given hp hx => exact hp.isSealed (hP hx)

theorem ActionText.isSealed {cs : List Char} {a : Action} (h : ActionText cs a) :
    Sealed Delimits cs := by
  cases h with
  | off => exact sealed_of_not_scanned (by decide)
  | ret h => exact (sealed_of_not_scanned (by decide)).append (h.isSealed LiteralText.isSealed)
  | sleep hp hd => exact (sealed_of_not_scanned (by decide)).append (hp.isSealed hd.isSealed)
  | panic h => exact (sealed_of_not_scanned (by decide)).append (h.isSealed StringText.isSealed)
  | print h => exact (sealed_of_not_scanned (by decide)).append (h.isSealed StringText.isSealed)

theorem GateText.isSealed {α : Type} {delimiter : Char} (hd : delimiter ∉ scanned)
    {P : List Char → α → Prop} (hP : ∀ {cs x}, P cs x → Sealed Delimits cs) {cs : List Char}
    {o : Option α} (h : GateText delimiter P cs o) : Sealed Delimits cs := by
  cases h with
  | absent => exact sealed_nil
  | given hn hb ha => exact ((hP hn).append hb.isSealed).append (sealed_cons hd ha.isSealed)

theorem SegmentText.isSealed {cs : List Char} {s : Segment} (h : SegmentText cs s) :
    Sealed Delimits cs := by
  cases h with
  | intro hb hp hn ha hb' =>
    refine (hb.isSealed.append ?_).append hb'.isSealed
    refine (hp.isSealed (by decide) PercentageText.isSealed).append ?_
    exact (hn.isSealed (by decide) CountText.isSealed).append ha.isSealed

/-- Outside its strings a chain has neither a semicolon nor an equals sign. -/
theorem ChainText.isSealed {cs : List Char} {ss : List Segment} (h : ChainText cs ss) :
    Sealed (· ∈ [';', '=']) cs := by
  have hseg : ∀ {cs s}, SegmentText cs s → Sealed (· ∈ [';', '=']) cs :=
    fun h => h.isSealed.mono fun c hc => List.mem_cons_of_mem _ hc
  induction h with
  | last h => exact hseg h
  | cons h _ ih =>
    have harrow : Sealed (· ∈ [';', '=']) ['-', '>'] := sealed_of_forall (by simp)
    exact (hseg h).append (harrow.append ih)

end FaultInjection
