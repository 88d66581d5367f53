import FaultInjection.Proofs.Term.Argument

/-!
# Reading actions

The word of an action runs up to the first character that is no letter, and the argument is what
the outermost parentheses hold. `readAction_eq_ok_iff` says that a text is read as an action exactly
if it is an `ActionText` with blanks behind it.
-/

namespace FaultInjection

open Decimal Text

/-! ## Between the parentheses -/

theorem readArgument_eq_none_iff {cs : List Char} : readArgument cs = .ok none ↔ cs = [] := by
  constructor
  · intro h
    unfold readArgument at h
    split at h
    · rfl
    · split at h <;> simp at h
    · simp at h
  · rintro rfl
    rfl

/-- The argument reaches to the last closing parenthesis, which only blanks may follow. -/
theorem readArgument_eq_some_iff {cs inner : List Char} : readArgument cs = .ok (some inner) ↔
    ∃ ws, Blanks ws ∧ cs = '(' :: (inner ++ ')' :: ws) := by
  constructor
  · intro h
    unfold readArgument at h
    split at h
    · simp at h
    · next body =>
      split at h
      · next reversed hrev =>
        obtain rfl := Option.some.inj (Except.ok.inj h)
        obtain ⟨ws, hw, hbody⟩ := exists_trimEnd body
        have htrim : trimEnd body = reversed.reverse ++ [')'] := by
          rw [← List.reverse_reverse (trimEnd body), hrev, List.reverse_cons]
        refine ⟨ws, hw, ?_⟩
        rw [hbody, htrim]
        simp
      · simp at h
    · simp at h
  · rintro ⟨ws, hw, rfl⟩
    have htrim : trimEnd (inner ++ ')' :: ws) = inner ++ [')'] := by
      have hjoin : inner ++ ')' :: ws = (inner ++ [')']) ++ ws := by simp
      rw [hjoin, trimEnd_append hw]
      exact trimEnd_of_tight (by simp [StartsTight, show isBlank ')' = false by decide])
    rw [readArgument, htrim, List.reverse_append]
    simp

section

variable {α : Type} {read : List Char → Except TermFault α} {P : List Char → α → Prop}

/-- The trimmed text of an argument, which is empty if there is no argument. -/
def argumentText (argument : Option (List Char)) : List Char := (argument.map trim).getD []

/-- What an argument denotes when `read` takes its text; an empty one denotes nothing. -/
def Argued (read : List Char → Except TermFault α) (argument : Option (List Char)) (o : Option α) :
    Prop :=
  if argumentText argument = [] then o = none
  else ∃ x, read (argumentText argument) = .ok x ∧ o = some x

/-- An absent and an empty argument are treated alike. -/
theorem match_argumentText {β : Type} {argument : Option (List Char)} {e : Except TermFault β}
    {f : α → β} {b : β} :
    (match argument.map trim with
      | none | some [] => e
      | some cs => (read cs).map f) = .ok b ↔
    if argumentText argument = [] then e = .ok b
    else ∃ x, read (argumentText argument) = .ok x ∧ f x = b := by
  unfold argumentText
  cases argument.map trim with
  | none => rfl
  | some cs =>
    cases cs with
    | nil => rfl
    | cons c cs => exact map_eq_ok_iff

/-- Reading an argument that may be missing. -/
theorem match_optional {β : Type} {argument : Option (List Char)} {f : Option α → β} {b : β} :
    (match argument.map trim with
      | none | some [] => Except.ok (f none)
      | some cs => (read cs).map fun x => f (some x)) = .ok b ↔
    ∃ o, Argued read argument o ∧ f o = b := by
  refine match_argumentText.trans ?_
  unfold Argued
  split
  · simp
  · constructor
    · rintro ⟨x, hx, rfl⟩
      exact ⟨some x, ⟨x, hx, rfl⟩, rfl⟩
    · rintro ⟨o, ⟨x, hx, rfl⟩, rfl⟩
      exact ⟨x, hx, rfl⟩

/-- Reading an argument that may not be missing. -/
theorem match_required {β : Type} {argument : Option (List Char)} {fault : TermFault} {f : α → β} {b : β} :
    (match argument.map trim with
      | none | some [] => Except.error fault
      | some cs => (read cs).map f) = .ok b ↔
    ∃ x, Argued read argument (some x) ∧ f x = b := by
  refine match_argumentText.trans ?_
  unfold Argued
  split
  · simp
  · simp

/-- What stands between parentheses is found, with the blanks around it. -/
theorem Parenthesised.readArgument_append {inner argument ws : List Char} (h : Parenthesised inner argument)
    (hw : Blanks ws) : ∃ found, readArgument (trimStart (argument ++ ws)) = .ok (some found) ∧
      trim found = trim inner := by
  cases h with
  | @intro before within within' _ hb hi hi' =>
    refine ⟨within ++ inner ++ within', ?_, trim_surround hi hi' inner⟩
    rw [List.append_assoc, trimStart_append hb, List.cons_append,
      trimStart_of_startsTight (startsTight_cons (by decide) _)]
    exact readArgument_eq_some_iff.2 ⟨ws, hw, by simp⟩

/-- What is found stands between parentheses. -/
theorem exists_parenthesised {rest inner : List Char} (h : readArgument (trimStart rest) = .ok (some inner)) :
    ∃ argument ws, Blanks ws ∧ rest = argument ++ ws ∧ Parenthesised (trim inner) argument := by
  obtain ⟨ws, hw, hrest⟩ := readArgument_eq_some_iff.1 h
  obtain ⟨before, hb, hsplit⟩ := exists_trimStart rest
  obtain ⟨within, within', hi, hi', hinner⟩ := exists_trim inner
  refine ⟨_, ws, hw, ?_, .intro hb hi hi'⟩
  rw [← hinner, hsplit, hrest]
  simp

/-- An optional argument is read as its grammar says if its inner text is. -/
theorem argued_iff (hread : ∀ {cs x}, Tight cs → (read cs = .ok x ↔ P cs x))
    (htrim : ∀ {cs x}, P cs x → trim cs ≠ [] ∧ P (trim cs) x) {rest : List Char} {o : Option α} :
    (∃ argument, readArgument (trimStart rest) = .ok argument ∧ Argued read argument o) ↔
      ∃ argument ws, Blanks ws ∧ rest = argument ++ ws ∧ OptionalArgument P argument o := by
  constructor
  · rintro ⟨argument, harg, ho⟩
    cases argument with
    | none =>
      obtain rfl : o = none := ho
      exact ⟨[], rest, trimStart_eq_nil_iff.1 (readArgument_eq_none_iff.1 harg), rfl, .absent⟩
    | some inner =>
      obtain ⟨argument, ws, hw, hrest, hp⟩ := exists_parenthesised harg
      refine ⟨argument, ws, hw, hrest, ?_⟩
      change if trim inner = [] then o = none else ∃ x, read (trim inner) = .ok x ∧ o = some x at ho
      split at ho
      · next hnil =>
        subst ho
        rw [hnil] at hp
        exact .empty hp
      · obtain ⟨x, hx, rfl⟩ := ho
        exact .given hp ((hread (tight_trim inner)).1 hx)
  · rintro ⟨argument, ws, hw, rfl, h⟩
    cases h with
    | absent => exact ⟨none, readArgument_eq_none_iff.2 (trimStart_eq_nil_iff.2 hw), rfl⟩
    | empty hp =>
      obtain ⟨found, hfound, htr⟩ := hp.readArgument_append hw
      refine ⟨some found, hfound, ?_⟩
      change if trim found = [] then (none : Option α) = none else _
      rw [htr]
      rfl
    | @given inner _ x hp hx =>
      obtain ⟨found, hfound, htr⟩ := hp.readArgument_append hw
      obtain ⟨hne, hx'⟩ := htrim hx
      refine ⟨some found, hfound, ?_⟩
      change if trim found = [] then some x = none else ∃ y, read (trim found) = .ok y ∧ some x = some y
      rw [htr, if_neg hne]
      exact ⟨x, (hread (tight_trim inner)).2 hx', rfl⟩

end

/-! ## The word and its argument -/

theorem StringText.trimmed {cs : List Char} {s : String} (h : StringText cs s) :
    trim cs ≠ [] ∧ StringText (trim cs) s := by
  rw [trim_of_tight h.tight]
  exact ⟨h.ne_nil, h⟩

theorem LiteralText.trimmed {cs : List Char} {l : Literal} (h : LiteralText cs l) :
    trim cs ≠ [] ∧ LiteralText (trim cs) l := by
  rw [trim_of_tight h.tight]
  exact ⟨h.ne_nil, h⟩

theorem PauseText.trimmed {cs : List Char} {d : Duration} (h : PauseText cs d) :
    trim cs ≠ [] ∧ PauseText (trim cs) d := by
  cases h with
  | bare hq hd =>
    rw [← Duration.parse_trim] at hd
    refine ⟨?_, .bare ?_ hd⟩
    · intro hn
      rw [hn] at hd
      simp [Duration.parse, show trim [] = [] from rfl] at hd
    · intro hquote
      have hc := Duration.forall_of_parse hd _ (List.mem_of_mem_head? hquote)
      revert hc
      decide
  | quoted hs hd =>
    rw [trim_of_tight hs.tight]
    exact ⟨hs.ne_nil, .quoted hs hd⟩

/-- The action that a word with an argument denotes. -/
inductive Acts (word : String) (argument : Option (List Char)) : Action → Prop where
  | off : word = "off" → argument = none → Acts word argument .off
  | ret {value : Option Literal} : word = "return" → Argued readLiteral argument value →
      Acts word argument (.ret value)
  | sleep {d : Duration} : word = "sleep" → Argued readPause argument (some d) →
      Acts word argument (.sleep d)
  | panic {message : Option String} : word = "panic" → Argued readString argument message →
      Acts word argument (.panic message)
  | print {message : Option String} : word = "print" → Argued readString argument message →
      Acts word argument (.print message)

theorem readMessage_eq_ok_iff {argument : Option (List Char)} {message : Option String} :
    readMessage argument = .ok message ↔ Argued readString argument message := by
  refine (match_optional (f := id)).trans ?_
  simp

/-- An action is read by its word and its argument. -/
theorem readAction_eq_ok_iff_acts {cs : List Char} {a : Action} : readAction cs = .ok a ↔
    ∃ argument, readArgument (trimStart (cs.dropWhile isNameLetter)) = .ok argument ∧
      Acts (String.ofList (cs.takeWhile isNameLetter)) argument a := by
  unfold readAction
  generalize String.ofList (cs.takeWhile isNameLetter) = word
  generalize readArgument (trimStart (cs.dropWhile isNameLetter)) = result
  cases result with
  | error e => simp
  | ok argument =>
    simp only [Except.ok.injEq, exists_eq_left']
    constructor
    · intro h
      split at h
      · next hword =>
        cases argument with
        | none =>
          obtain rfl := Except.ok.inj h
          exact .off hword rfl
        | some inner => simp at h
      split at h
      · next hword =>
        obtain ⟨value, hvalue, rfl⟩ := (match_optional (f := Action.ret)).1 h
        exact .ret hword hvalue
      split at h
      · next hword =>
        obtain ⟨d, hd, rfl⟩ := match_required.1 h
        exact .sleep hword hd
      split at h
      · next hword =>
        obtain ⟨message, hm, rfl⟩ := map_eq_ok_iff.1 h
        exact .panic hword (readMessage_eq_ok_iff.1 hm)
      split at h
      · next hword =>
        obtain ⟨message, hm, rfl⟩ := map_eq_ok_iff.1 h
        exact .print hword (readMessage_eq_ok_iff.1 hm)
      split at h <;> simp at h
    · intro h
      cases h with
      | off hword harg =>
        subst hword harg
        rfl
      | ret hword hvalue =>
        subst hword
        exact (match_optional (f := Action.ret)).2 ⟨_, hvalue, rfl⟩
      | sleep hword hd =>
        subst hword
        exact match_required.2 ⟨_, hd, rfl⟩
      | panic hword hm =>
        subst hword
        exact map_eq_ok_iff.2 ⟨_, readMessage_eq_ok_iff.2 hm, rfl⟩
      | print hword hm =>
        subst hword
        exact map_eq_ok_iff.2 ⟨_, readMessage_eq_ok_iff.2 hm, rfl⟩

/-! ## Actions -/

theorem isNameLetter_of_isBlank {c : Char} (h : isBlank c = true) : isNameLetter c = false := by
  rw [Bool.eq_false_iff]
  intro hl
  simp only [isNameLetter, Bool.or_eq_true, Bool.and_eq_true, decide_eq_true_eq, Char.le_def,
    UInt32.le_iff_toNat_le] at hl
  have hlo : 0x41 ≤ c.toNat := hl.elim (fun h => Nat.le_trans (by decide) h.1) (·.1)
  have hhi : c.toNat ≤ 0x7A := hl.elim (·.2) (fun h => Nat.le_trans h.2 (by decide))
  simp only [isBlank, Bool.or_eq_true, Bool.and_eq_true, decide_eq_true_eq, beq_iff_eq] at h
  omega

/-- What does not begin with a letter ends a word. -/
def EndsWord (cs : List Char) : Prop := ∀ c ∈ cs.head?, isNameLetter c = false

theorem Text.Blanks.endsWord {ws : List Char} (h : Blanks ws) : EndsWord ws :=
  fun c hc => isNameLetter_of_isBlank (h c (List.mem_of_mem_head? hc))

theorem Parenthesised.endsWord {inner argument : List Char} (h : Parenthesised inner argument)
    (ws : List Char) : EndsWord (argument ++ ws) := by
  cases h with
  | @intro before _ _ _ hb =>
    cases before with
    | nil => exact fun c hc => (Option.some.inj hc) ▸ (by decide)
    | cons b before => exact fun c hc => (Option.some.inj hc) ▸ isNameLetter_of_isBlank (hb b (by simp))

theorem OptionalArgument.endsWord {α : Type} {P : List Char → α → Prop} {argument : List Char}
    {o : Option α} (h : OptionalArgument P argument o) {ws : List Char} (hw : Blanks ws) :
    EndsWord (argument ++ ws) := by
  cases h with
  | absent => exact hw.endsWord
  | empty hp => exact hp.endsWord ws
  | given hp _ => exact hp.endsWord ws

theorem eq_append_of_word {cs : List Char} {name : String}
    (h : String.ofList (cs.takeWhile isNameLetter) = name) :
    cs = name.toList ++ cs.dropWhile isNameLetter := by
  rw [← h, String.toList_ofList, List.takeWhile_append_dropWhile]

theorem readAction_of_word {word rest : List Char} (hw : word.all isNameLetter = true)
    (hr : EndsWord rest) {argument : Option (List Char)}
    (harg : readArgument (trimStart rest) = .ok argument) {a : Action}
    (ha : Acts (String.ofList word) argument a) : readAction (word ++ rest) = .ok a := by
  have htake : rest.takeWhile isNameLetter = [] := by
    cases rest with
    | nil => rfl
    | cons c rest => exact List.takeWhile_cons_of_neg (by simp [hr c rfl])
  have hdrop : rest.dropWhile isNameLetter = rest := by
    cases rest with
    | nil => rfl
    | cons c rest => exact List.dropWhile_cons_of_neg (by simp [hr c rfl])
  rw [readAction_eq_ok_iff_acts, List.takeWhile_append_of_pos (List.all_eq_true.1 hw),
    List.dropWhile_append_of_pos (List.all_eq_true.1 hw), htake, hdrop, List.append_nil]
  exact ⟨argument, harg, ha⟩

section

variable {α : Type} {read : List Char → Except TermFault α} {P : List Char → α → Prop} {word text ws : List Char}
  {o : Option α} {a : Action}

/-- A text whose word has an argument is that word, the text of the argument, and blanks. -/
theorem exists_of_argued (hread : ∀ {cs x}, Tight cs → (read cs = .ok x ↔ P cs x))
    (htrim : ∀ {cs x}, P cs x → trim cs ≠ [] ∧ P (trim cs) x) {cs : List Char} {name : String}
    (hword : String.ofList (cs.takeWhile isNameLetter) = name) {argument : Option (List Char)}
    (harg : readArgument (trimStart (cs.dropWhile isNameLetter)) = .ok argument)
    (ho : Argued read argument o) :
    ∃ text ws, Blanks ws ∧ cs = name.toList ++ text ++ ws ∧ OptionalArgument P text o := by
  obtain ⟨text, ws, hw, hrest, ho⟩ := (argued_iff hread htrim).1 ⟨argument, harg, ho⟩
  refine ⟨text, ws, hw, ?_, ho⟩
  rw [List.append_assoc, ← hrest]
  exact eq_append_of_word hword

/-- A word with the text of an argument is read as the action that they denote together. -/
theorem readAction_of_argued (hread : ∀ {cs x}, Tight cs → (read cs = .ok x ↔ P cs x))
    (htrim : ∀ {cs x}, P cs x → trim cs ≠ [] ∧ P (trim cs) x) (hword : word.all isNameLetter = true)
    (hw : Blanks ws) (ho : OptionalArgument P text o)
    (hacts : ∀ argument, Argued read argument o → Acts (String.ofList word) argument a) :
    readAction (word ++ text ++ ws) = .ok a := by
  obtain ⟨argument, harg, hval⟩ := (argued_iff hread htrim).2 ⟨text, ws, hw, rfl, ho⟩
  rw [List.append_assoc]
  exact readAction_of_word hword (ho.endsWord hw) harg (hacts argument hval)

end

/-- What is read as an action is the text of one, with blanks behind it. -/
theorem readAction_eq_ok_iff {cs : List Char} {a : Action} : readAction cs = .ok a ↔
    ∃ action ws, Blanks ws ∧ cs = action ++ ws ∧ ActionText action a := by
  constructor
  · intro h
    obtain ⟨argument, harg, hacts⟩ := readAction_eq_ok_iff_acts.1 h
    cases hacts with
    | off hword hnone =>
      subst hnone
      have hblank := trimStart_eq_nil_iff.1 (readArgument_eq_none_iff.1 harg)
      exact ⟨_, _, hblank, eq_append_of_word hword, .off⟩
    | ret hword ho =>
      obtain ⟨text, ws, hw, hcs, ho⟩ :=
        exists_of_argued readLiteral_eq_ok_iff LiteralText.trimmed hword harg ho
      exact ⟨_, ws, hw, hcs, .ret ho⟩
    | sleep hword ho =>
      obtain ⟨text, ws, hw, hcs, ho⟩ := exists_of_argued readPause_eq_ok_iff PauseText.trimmed hword harg ho
      cases ho with
      | given hp hd => exact ⟨_, ws, hw, hcs, .sleep hp hd⟩
    | panic hword ho =>
      obtain ⟨text, ws, hw, hcs, ho⟩ := exists_of_argued readString_eq_ok_iff StringText.trimmed hword harg ho
      exact ⟨_, ws, hw, hcs, .panic ho⟩
    | print hword ho =>
      obtain ⟨text, ws, hw, hcs, ho⟩ := exists_of_argued readString_eq_ok_iff StringText.trimmed hword harg ho
      exact ⟨_, ws, hw, hcs, .print ho⟩
  · rintro ⟨action, ws, hw, rfl, h⟩
    cases h with
    | off =>
      have hnone := readArgument_eq_none_iff.2 (trimStart_eq_nil_iff.2 hw)
      exact readAction_of_word (by decide) hw.endsWord hnone (.off (by decide) rfl)
    | ret ho =>
      exact readAction_of_argued readLiteral_eq_ok_iff LiteralText.trimmed (by decide) hw ho
        fun _ hval => .ret (by decide) hval
    | sleep hp hd =>
      exact readAction_of_argued readPause_eq_ok_iff PauseText.trimmed (by decide) hw (.given hp hd)
        fun _ hval => .sleep (by decide) hval
    | panic ho =>
      exact readAction_of_argued readString_eq_ok_iff StringText.trimmed (by decide) hw ho
        fun _ hval => .panic (by decide) hval
    | print ho =>
      exact readAction_of_argued readString_eq_ok_iff StringText.trimmed (by decide) hw ho
        fun _ hval => .print (by decide) hval

end FaultInjection
