import FaultInjection.Proofs.Term.Action
import FaultInjection.Proofs.Term.Chain
import FaultInjection.Proofs.Term.Gate
import FaultInjection.Proofs.Term.Shape

/-!
# Reading terms

`Term.parse` accepts exactly the texts of `ChainText`, with the segments that it relates to them:
`chainText_of_parse` for what is read, `parse_of_chainText` for what can be read, and
`Term.parse_eq_ok_iff` for both.
-/

namespace FaultInjection

open Decimal Text

/-! ## Segments -/

/-- An action begins with a letter, which is part of no number and is the sign of no gate. -/
theorem ActionText.exists_letter {action : List Char} {a : Action} (h : ActionText action a) :
    ∃ c rest, action = c :: rest ∧ isNumeric c = false ∧ isBlank c = false ∧ c ≠ '%' ∧ c ≠ '*' := by
  cases h <;> exact ⟨_, _, rfl, by decide⟩

theorem Parenthesised.endsTight {inner argument : List Char} (h : Parenthesised inner argument)
    (word : List Char) : StartsTight (word ++ argument).reverse := by
  cases h with
  | intro =>
    simp only [← List.cons_append, ← List.append_assoc, List.reverse_append, List.reverse_singleton]
    exact startsTight_cons (by decide) _

theorem OptionalArgument.endsTight {α : Type} {P : List Char → α → Prop} {argument : List Char}
    {o : Option α} (h : OptionalArgument P argument o) {word : List Char}
    (hw : StartsTight word.reverse) : StartsTight (word ++ argument).reverse := by
  cases h with
  | absent => simpa using hw
  | empty hp => exact hp.endsTight word
  | given hp _ => exact hp.endsTight word

theorem ActionText.endsTight {action : List Char} {a : Action} (h : ActionText action a) :
    StartsTight action.reverse := by
  cases h with
  | off => exact (tight_of_any (by decide)).2
  | ret ho => exact ho.endsTight (tight_of_any (by decide)).2
  | sleep hp _ => exact hp.endsTight _
  | panic ho => exact ho.endsTight (tight_of_any (by decide)).2
  | print ho => exact ho.endsTight (tight_of_any (by decide)).2

theorem GateText.startsTight {α : Type} {d : Char} {P : List Char → α → Prop}
    (hnum : ∀ {cs x}, P cs x → cs ≠ [] ∧ ∀ c ∈ cs, isNumeric c = true) {gate rest : List Char}
    {o : Option α} (h : GateText d P gate o) (ht : StartsTight rest) : StartsTight (gate ++ rest) := by
  cases h with
  | absent => exact ht
  | given hx _ _ =>
    obtain ⟨hne, hall⟩ := hnum hx
    have htight := tight_of_forall fun c hc => isBlank_of_isNumeric (hall c hc)
    rw [List.append_assoc, List.append_assoc]
    exact startsTight_append htight.1 hne _

/-- No percentage is found where none is meant, whatever strings follow. -/
theorem numericHead_percent_eq_none {count action : List Char} {n : Option Nat} {a : Action}
    (hn : GateText '*' CountText count n) (ha : ActionText action a) :
    numericHead '%' (count ++ action) = none := by
  cases hn with
  | absent =>
    obtain ⟨c, rest, rfl, hc, hb, hp, -⟩ := ha.exists_letter
    exact numericHead_eq_none List.not_mem_nil hp hc hb rest
  | @given number before after _ hx hb =>
    have hmem : '%' ∉ number ++ before := by
      intro hm
      rcases List.mem_append.1 hm with hm | hm
      · exact absurd (hx.isNumeric.2 _ hm) (by decide)
      · exact absurd (hb _ hm) (by decide)
    rw [List.append_assoc, List.cons_append]
    exact numericHead_eq_none hmem (by decide) (by decide) (by decide) _

theorem numericHead_star_eq_none {action : List Char} {a : Action} (ha : ActionText action a) :
    numericHead '*' action = none := by
  obtain ⟨c, rest, rfl, hc, hb, -, hs⟩ := ha.exists_letter
  exact numericHead_eq_none List.not_mem_nil hs hc hb rest

/-- What is read as a segment is the text of one. -/
theorem readSegment_eq_ok_iff {cs : List Char} {s : Segment} :
    readSegment (String.ofList cs) = .ok s ↔ SegmentText cs s := by
  constructor
  · intro h
    unfold readSegment at h
    rw [String.toList_ofList] at h
    dsimp only at h
    split at h
    · simp at h
    obtain ⟨⟨p, rest⟩, hp, h⟩ := bind_eq_ok_iff.1 h
    obtain ⟨⟨n, rest'⟩, hn, h⟩ := bind_eq_ok_iff.1 h
    obtain ⟨a, ha, h⟩ := bind_eq_ok_iff.1 h
    obtain rfl := Except.ok.inj h
    dsimp only at hn ha
    obtain ⟨percentage, hpt, hsplit, ht⟩ := readGate_sound readPercentage_eq_ok_iff.1 (tight_trim cs).1 hp
    obtain ⟨count, hnt, hsplit', -⟩ := readGate_sound readCount_eq_ok_iff.1 ht hn
    obtain ⟨action, ws, hw, hsplit'', hat⟩ := readAction_eq_ok_iff.1 ha
    obtain ⟨before, after, hb, haf, hcs⟩ := exists_trim cs
    have hjoin : cs = before ++ (percentage ++ (count ++ action)) ++ (ws ++ after) := by
      rw [hcs, hsplit, hsplit', hsplit'']
      simp
    rw [hjoin]
    exact .intro hb hpt hnt hat (hw.append haf)
  · intro h
    cases h with
    | @intro before percentage count action after p n a hb hp hn ha haf =>
      obtain ⟨c, rest, hact, -, hc, -, -⟩ := ha.exists_letter
      have hstart : StartsTight action := hact ▸ startsTight_cons hc rest
      have hne : action ≠ [] := hact ▸ List.cons_ne_nil c rest
      have hstart' := hn.startsTight CountText.isNumeric hstart
      have htight : Tight (percentage ++ (count ++ action)) := by
        refine ⟨hp.startsTight PercentageText.isNumeric hstart', ?_⟩
        rw [← List.append_assoc, List.reverse_append]
        exact startsTight_append ha.endsTight (by simpa using hne) _
      have hpercent := readGate_complete hp readPercentage_eq_ok_iff.2 PercentageText.isNumeric (by decide)
        (by decide) hstart' fun _ => numericHead_percent_eq_none hn ha
      have hcount := readGate_complete hn readCount_eq_ok_iff.2 CountText.isNumeric (by decide)
        (by decide) hstart fun _ => numericHead_star_eq_none ha
      have haction := readAction_eq_ok_iff.2 ⟨action, [], .nil, (List.append_nil _).symm, ha⟩
      unfold readSegment
      rw [String.toList_ofList, trim_surround_of_tight hb haf htight]
      dsimp only
      rw [if_neg (by simp [hne]), hpercent]
      refine bind_eq_ok_iff.2 ⟨_, rfl, ?_⟩
      refine bind_eq_ok_iff.2 ⟨_, hcount, ?_⟩
      exact bind_eq_ok_iff.2 ⟨_, haction, rfl⟩

/-! ## Chains -/

theorem chainText_iff {cs : List Char} {ss : List Segment} : ChainText cs ss ↔
    ∃ parts, parts ≠ [] ∧ cs = Chain.arrow.intercalate parts ∧ List.Forall₂ SegmentText parts ss := by
  constructor
  · intro h
    induction h with
    | @last cs s h => exact ⟨[cs], by simp, by simp [List.intercalate], .cons h .nil⟩
    | @cons cs rest s ss h _ ih =>
      obtain ⟨parts, hn, rfl, hall⟩ := ih
      exact ⟨cs :: parts, by simp, (Chain.intercalate_arrow_cons hn cs).symm, .cons h hall⟩
  · rintro ⟨parts, hn, rfl, hall⟩
    induction hall with
    | nil => exact absurd rfl hn
    | @cons part s parts ss h hall ih =>
      by_cases hp : parts = []
      · subst hp
        cases hall
        simpa [List.intercalate] using ChainText.last h
      · rw [Chain.intercalate_arrow_cons hp]
        exact .cons h (ih hp)

theorem mapM_readSegment_eq_ok_iff {parts : List (List Char)} {ss : List Segment} :
    (parts.map String.ofList).mapM readSegment = .ok ss ↔ List.Forall₂ SegmentText parts ss := by
  rw [mapM_eq_ok_iff, List.forall₂_map_left_iff]
  simp only [readSegment_eq_ok_iff]

/-- The text of an accepted term is a chain, and its segments are those of the chain. -/
theorem chainText_of_parse {spec : String} {t : Term} (h : Term.parse spec = .ok t) :
    t.source = spec ∧ ChainText spec.toList t.segments := by
  unfold Term.parse at h
  rw [Chain.split?_eq] at h
  split at h
  · simp at h
  cases hcut : Chain.cutText .outside spec.toList with
  | none => simp [hcut] at h
  | some parts =>
    rw [hcut, Option.map_some] at h
    obtain ⟨ss, hss, rfl⟩ := map_eq_ok_iff.1 h
    exact ⟨rfl, chainText_iff.2 ⟨parts, Chain.cutText_ne_nil hcut,
      (Chain.intercalate_of_cutText hcut).symm, mapM_readSegment_eq_ok_iff.1 hss⟩⟩

theorem SegmentText.not_blanks {cs : List Char} {s : Segment} (h : SegmentText cs s) : ¬ Blanks cs := by
  intro hb
  cases h with
  | intro _ _ _ ha _ =>
    obtain ⟨c, rest, rfl, -, hc, -, -⟩ := ha.exists_letter
    have hblank := hb c (by simp)
    exact Bool.false_ne_true (hc.symm.trans hblank)

theorem ChainText.not_blanks {cs : List Char} {ss : List Segment} (h : ChainText cs ss) :
    ¬ Blanks cs := by
  cases h with
  | last h => exact h.not_blanks
  | cons h _ => exact fun hb => h.not_blanks hb.of_append.1

theorem sealed_of_segments {parts : List (List Char)} {ss : List Segment}
    (h : List.Forall₂ SegmentText parts ss) : ∀ p ∈ parts, Sealed (· = '>') p := by
  induction h with
  | nil => simp
  | cons hs _ ih =>
    have hseal : Sealed (· = '>') _ := hs.isSealed.mono fun c hc => by simp [Delimits, hc]
    exact List.forall_mem_cons.2 ⟨hseal, ih⟩

/-- Every chain is the text of an accepted term. -/
theorem parse_of_chainText {spec : String} {ss : List Segment} (h : ChainText spec.toList ss) :
    Term.parse spec = .ok ⟨spec, ss⟩ := by
  have hblank : ¬ isBlankText spec = true := fun hb => h.not_blanks (List.all_eq_true.1 hb)
  obtain ⟨parts, hn, hcs, hall⟩ := chainText_iff.1 h
  unfold Term.parse
  rw [if_neg hblank, Chain.split?_eq, hcs, Chain.cutText_intercalate hn (sealed_of_segments hall), Option.map_some]
  exact map_eq_ok_iff.2 ⟨ss, mapM_readSegment_eq_ok_iff.2 hall, rfl⟩

theorem ChainText.forall_segment {cs : List Char} {ss : List Segment} (h : ChainText cs ss) :
    ∀ s ∈ ss, ∃ ds, SegmentText ds s := by
  induction h with
  | last h => simpa using ⟨_, h⟩
  | cons h _ ih => exact List.forall_mem_cons.2 ⟨⟨_, h⟩, ih⟩

theorem SegmentText.one_le_count {cs : List Char} {s : Segment} (h : SegmentText cs s) :
    ∀ c ∈ s.count, 1 ≤ c := by
  cases h with
  | intro _ _ hn _ _ =>
    intro c hc
    cases hn with
    | absent => cases hc
    | given hx _ _ =>
      obtain rfl := Option.some.inj hc
      cases hx with
      | intro _ _ _ hpos _ => exact hpos

/-- No count of an accepted term is zero. -/
theorem one_le_count_of_parse {spec : String} {t : Term} (h : Term.parse spec = .ok t) :
    ∀ s ∈ t.segments, ∀ c ∈ s.count, 1 ≤ c := by
  intro s hs
  obtain ⟨ds, hd⟩ := (chainText_of_parse h).2.forall_segment s hs
  exact hd.one_le_count

/-- A text is a term exactly if it is a chain; the term keeps it and has the segments of the chain. -/
theorem Term.parse_eq_ok_iff (spec : String) (t : Term) :
    Term.parse spec = .ok t ↔ t.source = spec ∧ ChainText spec.toList t.segments := by
  constructor
  · exact chainText_of_parse
  · rintro ⟨rfl, h⟩
    exact parse_of_chainText h

end FaultInjection
