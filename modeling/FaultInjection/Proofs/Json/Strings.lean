import FaultInjection.Proofs.Json.Grammar

/-!
# Reading a JSON string

A JSON text is read as a string exactly if the grammar has it as that string, whatever escapes it is
spelled with and whatever spaces stand around it: `parse?_eq_string_iff`.
-/

namespace FaultInjection.Json

theorem mem_letterEscapes_iff {e c : Char} : (e, c) ∈ letterEscapes ↔ simpleEscape? e = some c := by
  constructor
  · intro h
    simp only [letterEscapes, List.mem_cons, List.not_mem_nil, or_false, Prod.mk.injEq] at h
    rcases h with ⟨rfl, rfl⟩ | ⟨rfl, rfl⟩ | ⟨rfl, rfl⟩ | ⟨rfl, rfl⟩ | ⟨rfl, rfl⟩ | ⟨rfl, rfl⟩ | ⟨rfl, rfl⟩ |
      ⟨rfl, rfl⟩ <;> rfl
  · intro h
    unfold simpleEscape? at h
    split at h
    case h_9 => cases h
    all_goals exact (Option.some.inj h) ▸ (by decide)

/-- What is read as a string up to a quote is the body of one. -/
theorem exists_body_of_readItems {cs rest : List Char} {items : List StringItem}
    (h : readItems cs = some (items, rest)) : ∃ body, cs = body ++ '"' :: rest ∧ StringBody body items := by
  fun_induction readItems cs generalizing items rest with
  | case1 => cases h
  | case2 after =>
    cases h
    exact ⟨[], rfl, .nil⟩
  | case3 a b c d cs n items' after hread hcode ih =>
    cases h
    obtain ⟨body, rfl, hbody⟩ := ih hread
    exact ⟨_, rfl, .code hcode hbody⟩
  | case4 => cases h
  | case5 e cs _ c items' after hread hletter ih =>
    cases h
    obtain ⟨body, rfl, hbody⟩ := ih hread
    exact ⟨_, rfl, .escape (mem_letterEscapes_iff.2 hletter) hbody⟩
  | case6 => cases h
  | case7 => cases h
  | case8 c cs hq _ hescape hlow ih =>
    obtain ⟨⟨items', after⟩, hread, heq⟩ := Option.map_eq_some_iff.1 h
    cases heq
    obtain ⟨body, hcs, hbody⟩ := ih hread
    -- A backslash at the end of the text begins nothing, and then no quote is found.
    obtain ⟨d, ds, hd⟩ := List.exists_cons_of_ne_nil (l := cs) (by simp [hcs])
    have hb : c ≠ '\\' := fun hc => hescape d ds hc hd
    exact ⟨c :: body, by rw [hcs, List.cons_append], .plain (Nat.le_of_not_lt hlow) hq hb hbody⟩

/-- A value that is read as a string stands between quotes. -/
theorem exists_body_of_readValue {fuel : Nat} {cs rest : List Char} {s : String}
    (h : readValue? fuel cs = some (.string s, rest)) :
    ∃ body items, cs = '"' :: (body ++ '"' :: rest) ∧ StringBody body items ∧ stringValue items = .string s := by
  cases fuel with
  | zero => cases h
  | succ fuel =>
    unfold readValue? at h
    split at h
    · obtain ⟨⟨items, after⟩, hread, heq⟩ := Option.map_eq_some_iff.1 h
      obtain ⟨hvalue, rfl⟩ := Prod.mk.inj heq
      obtain ⟨body, rfl, hbody⟩ := exists_body_of_readItems hread
      exact ⟨body, items, rfl, hbody, hvalue⟩
    · split at h <;> simp at h
    · split at h <;> simp at h
    · split at h <;> simp at h

theorem stringValue_eq_iff {items : List StringItem} {s : String} :
    stringValue items = .string s ↔ joinItems items = some s.toList := by
  unfold stringValue
  split
  · next cs hcs =>
    rw [hcs, Value.string.injEq, Option.some.injEq, ← String.toList_inj, String.toList_ofList]
  · next hnone => simp [hnone]

/-- A text of a string is a body between quotes, with spaces around them. -/
theorem jsonText_string_iff {cs : List Char} {s : String} : JsonText cs (.string s) ↔
    ∃ before body items after, cs = before ++ '"' :: (body ++ '"' :: after) ∧ Spaces before ∧ Spaces after ∧
      StringBody body items ∧ stringValue items = .string s := by
  constructor
  · intro h
    generalize hv : Value.string s = v at h
    cases h with
    | @intro before cs after v hb hvalue ha =>
      cases hvalue with
      | string hbody => exact ⟨before, _, _, after, by simp, hb, ha, hbody, rfl⟩
      | _ => cases hv
  · rintro ⟨before, body, items, after, rfl, hb, ha, hbody, hvalue⟩
    have htext : JsonText (before ++ '"' :: (body ++ ['"']) ++ after) (stringValue items) :=
      .intro hb (.string hbody) ha
    rw [hvalue] at htext
    simpa using htext

theorem skipSpace_append {before cs : List Char} (hb : Spaces before) : skipSpace (before ++ cs) = skipSpace cs :=
  List.dropWhile_append_of_pos hb

theorem skipSpace_eq_nil_iff {cs : List Char} : skipSpace cs = [] ↔ Spaces cs := List.dropWhile_eq_nil_iff

theorem parse?_eq_string_iff {text s : String} :
    parse? text = some (.string s) ↔ JsonText text.toList (.string s) := by
  rw [jsonText_string_iff, parse?]
  constructor
  · intro h
    split at h
    · next v rest hread =>
      obtain ⟨hrest, hv⟩ := Option.ite_none_right_eq_some.1 h
      obtain rfl := Option.some.inj hv
      obtain ⟨body, items, hcs, hbody, hvalue⟩ := exists_body_of_readValue hread
      refine ⟨text.toList.takeWhile isSpace, body, items, rest, ?_, fun _ => List.mem_takeWhile_imp, ?_, hbody, hvalue⟩
      · rw [← hcs, skipSpace, List.takeWhile_append_dropWhile]
      · exact skipSpace_eq_nil_iff.1 (List.isEmpty_iff.1 hrest)
    · cases h
  · rintro ⟨before, body, items, after, hcs, hb, ha, hbody, hvalue⟩
    have hskip : skipSpace text.toList = '"' :: (body ++ '"' :: after) := by
      rw [hcs, skipSpace_append hb]
      rfl
    rw [hskip, readValue?, readItems_of_body hbody]
    simp [skipSpace_eq_nil_iff.2 ha, hvalue]

end FaultInjection.Json
