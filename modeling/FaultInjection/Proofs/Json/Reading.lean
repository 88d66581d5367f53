import FaultInjection.Proofs.Json.Strings
import Mathlib.Data.List.DropRight

/-!
# What the grammar has, the reader takes

Every JSON text is read, and as the value that the grammar has for it: `parse?_of_jsonText`. The reader looks one
character past a number, so a value is read up to a text that does not go on with it (`NumberEnds`). It has fuel for
two calls to a character, and the induction is on the fuel.
-/

namespace FaultInjection.Json

open Decimal

variable {cs rest : List Char} {v : Value} {vs : List Value} {ms : List (Option String × Value)} {fuel : Nat}

/-! ## Spaces -/

theorem skipSpace_cons {c : Char} (h : isSpace c = false) (cs : List Char) : skipSpace (c :: cs) = c :: cs :=
  List.dropWhile_cons_of_neg (by rw [h]; exact Bool.false_ne_true)

theorem skipSpace_append_cons {before : List Char} {c : Char} (h : Spaces before) (hc : isSpace c = false)
    (cs : List Char) : skipSpace (before ++ c :: cs) = c :: cs := by
  rw [skipSpace_append h, skipSpace_cons hc]

theorem skipSpace_skipSpace (cs : List Char) : skipSpace (skipSpace cs) = skipSpace cs :=
  List.dropWhile_idempotent isSpace cs

theorem Spaces.numberEnds {after : List Char} (h : Spaces after) (hr : NumberEnds rest) :
    NumberEnds (after ++ rest) := by
  cases after with
  | nil => exact hr
  | cons c after =>
    intro d hd
    obtain rfl := Option.some.inj hd
    have hspace := h c List.mem_cons_self
    refine ⟨?_, ?_, ?_, ?_⟩
    · by_contra hdigit
      have hbounds := bounds_of_isDigit (Bool.not_eq_false _ ▸ hdigit)
      simp only [isSpace, Bool.or_eq_true, beq_iff_eq] at hspace
      rcases hspace with ((rfl | rfl) | rfl) | rfl <;> exact absurd hbounds (by decide)
    all_goals
      rintro rfl
      exact absurd hspace (by decide)

theorem numberEnds_cons {c : Char} (h : c = ',' ∨ c = ']' ∨ c = '\x7d') (rest : List Char) :
    NumberEnds (c :: rest) := by
  intro d hd
  obtain rfl := Option.some.inj hd
  rcases h with rfl | rfl | rfl <;> decide

/-- A value begins with no space and with no closing bracket. -/
theorem ValueText.head (h : ValueText cs v) : ∃ c cs', cs = c :: cs' ∧ isSpace c = false ∧ c ≠ ']' := by
  cases h with
  | number hn =>
    obtain ⟨c, rest, rfl, hc⟩ := hn.head
    refine ⟨c, rest, rfl, ?_, ?_⟩
    · by_contra hspace
      simp only [isSpace, Bool.not_eq_false, Bool.or_eq_true, beq_iff_eq] at hspace
      rcases hspace with ((rfl | rfl) | rfl) | rfl <;> exact absurd hc (by decide)
    · rintro rfl
      exact absurd hc (by decide)
  | _ => exact ⟨_, _, rfl, by decide, by decide⟩

/-! ## Values, elements and members -/

/-- A single element is a value with spaces around it. -/
theorem ElementsText.single (h : ElementsText cs [v]) : ∃ before body after,
    cs = before ++ (body ++ after) ∧ Spaces before ∧ ValueText body v ∧ Spaces after := by
  cases h with
  | last hb hv ha => exact ⟨_, _, _, rfl, hb, hv, ha⟩
  | cons _ _ _ hrest => cases hrest

theorem ElementsText.head (h : ElementsText cs vs) (rest : List Char) :
    ∃ c cs', skipSpace (cs ++ rest) = c :: cs' ∧ c ≠ ']' := by
  have hfirst : ∀ {before body after : List Char} {v : Value}, Spaces before → ValueText body v →
      ∃ c cs', skipSpace (before ++ (body ++ after)) = c :: cs' ∧ c ≠ ']' := by
    intro before body after v hb hv
    obtain ⟨c, cs', rfl, hspace, hne⟩ := hv.head
    exact ⟨c, cs' ++ after, skipSpace_append_cons hb hspace _, hne⟩
  cases h with
  | last hb hv _ =>
    rw [List.append_assoc, List.append_assoc]
    exact hfirst hb hv
  | cons hb hv _ _ =>
    rw [List.append_assoc, List.append_assoc]
    exact hfirst hb hv

theorem MembersText.head (h : MembersText cs ms) (rest : List Char) :
    ∃ cs', skipSpace (cs ++ rest) = '"' :: cs' := by
  cases h with
  | last hb =>
    rw [List.append_assoc, List.cons_append]
    exact ⟨_, skipSpace_append_cons hb rfl _⟩
  | cons hb =>
    rw [List.append_assoc, List.cons_append]
    exact ⟨_, skipSpace_append_cons hb rfl _⟩

theorem readElements?_skipSpace (fuel : Nat) (cs : List Char) :
    readElements? fuel (skipSpace cs) = readElements? fuel cs := by
  cases fuel with
  | zero => rfl
  | succ fuel => rw [readElements?, readElements?, skipSpace_skipSpace]

theorem readMembers?_skipSpace (fuel : Nat) (cs : List Char) :
    readMembers? fuel (skipSpace cs) = readMembers? fuel cs := by
  cases fuel with
  | zero => rfl
  | succ fuel => rw [readMembers?, readMembers?, skipSpace_skipSpace]

theorem word?_of_ne {w c : Char} (h : w ≠ c) (ws cs : List Char) :
    word? (String.ofList (w :: ws)) (c :: cs) = none := by
  rw [word?, String.toList_ofList, List.isPrefixOf_cons_cons, beq_false_of_ne h, Bool.false_and,
    if_neg Bool.false_ne_true]

theorem readValue?_of_number {n : Number} (h : NumberText cs n) (hr : NumberEnds rest) :
    readValue? (fuel + 1) (cs ++ rest) = some (.number n, rest) := by
  have hread := readNumber?_append h hr
  obtain ⟨c, cs', rfl, hc⟩ := h.head
  have hne : ∀ e : Char, isDigit e = false → e ≠ '-' → e ≠ c := by
    rintro e hdigit hminus rfl
    rcases hc with hc | hc
    · rw [hdigit] at hc
      cases hc
    · exact hminus hc
  rw [List.cons_append] at hread ⊢
  unfold readValue?
  split
  · next heq => exact absurd (List.cons.inj heq).1.symm (hne _ (by decide) (by decide))
  · next heq => exact absurd (List.cons.inj heq).1.symm (hne _ (by decide) (by decide))
  · next heq => exact absurd (List.cons.inj heq).1.symm (hne _ (by decide) (by decide))
  · have hnull : word? "null" (c :: (cs' ++ rest)) = none := word?_of_ne (hne 'n' (by decide) (by decide)) _ _
    have htrue : word? "true" (c :: (cs' ++ rest)) = none := word?_of_ne (hne 't' (by decide) (by decide)) _ _
    have hfalse : word? "false" (c :: (cs' ++ rest)) = none := word?_of_ne (hne 'f' (by decide) (by decide)) _ _
    rw [hnull, htrue, hfalse, hread]
    rfl

/-- With this fuel the reader takes every value, every row of elements and every row of members. -/
structure Reads (fuel : Nat) : Prop where
  value : ∀ {cs rest : List Char} {v : Value}, ValueText cs v → 2 * cs.length ≤ fuel → NumberEnds rest →
    readValue? fuel (cs ++ rest) = some (v, rest)
  elements : ∀ {cs : List Char} {vs : List Value} (rest : List Char), ElementsText cs vs → 2 * cs.length < fuel →
    readElements? fuel (cs ++ ']' :: rest) = some (vs, rest)
  members : ∀ {cs : List Char} {ms : List (Option String × Value)} (rest : List Char), MembersText cs ms →
    2 * cs.length < fuel → readMembers? fuel (cs ++ '\x7d' :: rest) = some (ms, rest)

theorem Reads.succ_value (h : Reads fuel) (hv : ValueText cs v) (hfuel : 2 * cs.length ≤ fuel + 1)
    (hr : NumberEnds rest) : readValue? (fuel + 1) (cs ++ rest) = some (v, rest) := by
  cases hv with
  | null => rfl
  | yes => rfl
  | no => rfl
  | number hn => exact readValue?_of_number hn hr
  | @string cs items hb =>
    have hread := readItems_of_body hb rest
    simp only [List.cons_append, List.append_assoc, List.nil_append]
    rw [readValue?, hread]
    rfl
  | noElements hs =>
    simp only [List.cons_append, List.append_assoc, List.nil_append]
    rw [readValue?, skipSpace_append_cons hs rfl]
    rfl
  | @array cs vs he =>
    simp only [List.length_cons, List.length_append, List.length_nil] at hfuel
    simp only [List.cons_append, List.append_assoc, List.nil_append]
    have hread := h.elements rest he (by omega)
    obtain ⟨c, cs', hskip, hne⟩ := he.head (']' :: rest)
    rw [← readElements?_skipSpace, hskip] at hread
    rw [readValue?, hskip]
    split
    · next heq => exact absurd (List.cons.inj heq).1 hne
    · rw [hread]
      rfl
  | noMembers hs =>
    simp only [List.cons_append, List.append_assoc, List.nil_append]
    rw [readValue?, skipSpace_append_cons hs rfl]
    rfl
  | @object cs ms hm =>
    simp only [List.length_cons, List.length_append, List.length_nil] at hfuel
    simp only [List.cons_append, List.append_assoc, List.nil_append]
    have hread := h.members rest hm (by omega)
    obtain ⟨cs', hskip⟩ := hm.head ('\x7d' :: rest)
    rw [← readMembers?_skipSpace, hskip] at hread
    rw [readValue?, hskip]
    change Option.map _ (readMembers? fuel ('"' :: cs')) = _
    rw [hread]
    rfl

/-- A value with spaces around it is read up to the character behind them. -/
theorem Reads.spaced {before body after : List Char} {c : Char} (h : Reads fuel) (hb : Spaces before)
    (hv : ValueText body v) (ha : Spaces after) (hfuel : 2 * body.length ≤ fuel)
    (hc : c = ',' ∨ c = ']' ∨ c = '\x7d') (rest : List Char) : ∃ behind,
      readValue? fuel (skipSpace (before ++ (body ++ (after ++ c :: rest)))) = some (v, behind) ∧
      skipSpace behind = c :: rest := by
  refine ⟨after ++ c :: rest, ?_, ?_⟩
  · have hskip : skipSpace (before ++ (body ++ (after ++ c :: rest))) = body ++ (after ++ c :: rest) := by
      obtain ⟨d, body', rfl, hspace, -⟩ := hv.head
      exact skipSpace_append_cons hb hspace _
    rw [hskip]
    exact h.value hv hfuel (ha.numberEnds (numberEnds_cons hc rest))
  · have hspace : isSpace c = false := by rcases hc with rfl | rfl | rfl <;> rfl
    exact skipSpace_append_cons ha hspace rest

theorem Reads.succ_elements (h : Reads fuel) (he : ElementsText cs vs) (hfuel : 2 * cs.length < fuel + 1)
    (rest : List Char) : readElements? (fuel + 1) (cs ++ ']' :: rest) = some (vs, rest) := by
  cases he with
  | last hb hv ha =>
    simp only [List.length_append] at hfuel
    simp only [List.append_assoc]
    obtain ⟨behind, hread, hskip⟩ := h.spaced hb hv ha (by omega) (.inr (.inl rfl)) rest
    rw [readElements?, hread]
    dsimp only
    rw [hskip]
    rfl
  | @cons _ _ _ others _ _ hb hv ha hothers =>
    simp only [List.length_append, List.length_cons] at hfuel
    simp only [List.append_assoc, List.cons_append]
    obtain ⟨behind, hread, hskip⟩ := h.spaced hb hv ha (by omega) (.inl rfl) (others ++ ']' :: rest)
    rw [readElements?, hread]
    dsimp only
    rw [hskip]
    change Option.map _ (readElements? fuel (others ++ ']' :: rest)) = _
    rw [h.elements rest hothers (by omega)]
    rfl

/-- A member is read, and what stands behind it decides whether others follow. -/
theorem readMembers?_step {body colon value behind : List Char} {items : List StringItem}
    (hcs : skipSpace cs = '"' :: body) (hitems : readItems body = some (items, colon))
    (hcolon : skipSpace colon = ':' :: value) (hvalue : readValue? fuel (skipSpace value) = some (v, behind)) :
    (skipSpace behind = '\x7d' :: rest →
      readMembers? (fuel + 1) cs = some ([((joinItems items).map String.ofList, v)], rest)) ∧
    (skipSpace behind = ',' :: rest → readMembers? (fuel + 1) cs =
      (readMembers? fuel rest).map fun x => (((joinItems items).map String.ofList, v) :: x.1, x.2)) := by
  rw [readMembers?, hcs]
  split
  · next heq =>
    cases heq
    rw [hitems]
    dsimp only
    rw [hcolon]
    split
    · next heq =>
      cases heq
      rw [hvalue]
      constructor
      · intro hbehind
        dsimp only
        rw [hbehind]
        rfl
      · intro hbehind
        dsimp only
        rw [hbehind]
        rfl
    · next hne => exact absurd rfl (hne value)
  · next hne => exact absurd rfl (hne body)

theorem Reads.succ_members (h : Reads fuel) (hm : MembersText cs ms) (hfuel : 2 * cs.length < fuel + 1)
    (rest : List Char) : readMembers? (fuel + 1) (cs ++ '\x7d' :: rest) = some (ms, rest) := by
  cases hm with
  | last hb hk hbetween hv =>
    obtain ⟨before, body, after, rfl, hbefore, hv, ha⟩ := hv.single
    simp only [List.length_append, List.length_cons] at hfuel
    simp only [List.append_assoc, List.cons_append]
    obtain ⟨behind, hread, hskip⟩ := h.spaced hbefore hv ha (by omega) (.inr (.inr rfl)) rest
    exact (readMembers?_step (skipSpace_append_cons hb rfl _) (readItems_of_body hk _)
      (skipSpace_append_cons hbetween rfl _) hread).1 hskip
  | @cons _ _ _ _ others _ _ _ hb hk hbetween hv hothers =>
    obtain ⟨before, body, after, rfl, hbefore, hv, ha⟩ := hv.single
    simp only [List.length_append, List.length_cons] at hfuel
    simp only [List.append_assoc, List.cons_append]
    obtain ⟨behind, hread, hskip⟩ := h.spaced hbefore hv ha (by omega) (.inl rfl) (others ++ '\x7d' :: rest)
    rw [(readMembers?_step (skipSpace_append_cons hb rfl _) (readItems_of_body hk _)
      (skipSpace_append_cons hbetween rfl _) hread).2 hskip, h.members rest hothers (by omega)]
    rfl

theorem reads (fuel : Nat) : Reads fuel := by
  induction fuel with
  | zero =>
    refine ⟨fun hv hfuel _ => ?_, fun _ _ hfuel => absurd hfuel (Nat.not_lt_zero _),
      fun _ _ hfuel => absurd hfuel (Nat.not_lt_zero _)⟩
    obtain ⟨c, cs', rfl, -⟩ := hv.head
    rw [List.length_cons] at hfuel
    omega
  | succ fuel ih =>
    exact ⟨ih.succ_value, fun rest he hfuel => ih.succ_elements he hfuel rest,
      fun rest hm hfuel => ih.succ_members hm hfuel rest⟩

/-- Every JSON text is read as the value that it denotes. -/
theorem parse?_of_jsonText {text : String} (h : JsonText text.toList v) : parse? text = some v := by
  generalize hcs : text.toList = cs at h
  cases h with
  | @intro before body after v hb hv ha =>
    obtain ⟨c, body', hbody, hspace, -⟩ := hv.head
    have hskip : skipSpace (before ++ body ++ after) = body ++ after := by
      rw [List.append_assoc, hbody]
      exact skipSpace_append_cons hb hspace _
    have hread := (reads (2 * (before ++ body ++ after).length + 2)).value hv (by simp; omega)
      (List.append_nil after ▸ ha.numberEnds numberEnds_nil)
    rw [parse?, hcs, hskip, hread]
    exact if_pos (by rw [skipSpace_eq_nil_iff.2 ha]; rfl)

end FaultInjection.Json
