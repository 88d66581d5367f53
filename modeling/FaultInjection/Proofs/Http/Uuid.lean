import FaultInjection.Http.RequestId
import Mathlib.Data.List.Forall2
import Mathlib.Data.Nat.Digits.Defs
import Mathlib.Algebra.Ring.Nat

/-!
# The spellings of an identifier

An identifier is a number below 2 ^ 128 (`Uuid.value`), written as thirty-two hexadecimal digits in either case.
`Spelling` lists its accepted spellings by their grammar, and `parse?_eq_some_iff` says that the reader takes these
and no others. The canonical form is one of them, so that it reads back as what it was written from.
-/

namespace FaultInjection.Http.Uuid

open Text

/-! ## Digits -/

/-- The character is the hexadecimal digit, in either case. -/
def Denotes (c : Char) (d : Fin 16) : Prop := c = Json.lowerHex d.val ∨ c = Percent.upperHex d.val

theorem digit?_of_denotes {c : Char} {d : Fin 16} (h : Denotes c d) : digit? c = some d := by
  have hall : ∀ d : Fin 16, digit? (Json.lowerHex d.val) = some d ∧ digit? (Percent.upperHex d.val) = some d := by
    decide
  rcases h with rfl | rfl
  · exact (hall d).1
  · exact (hall d).2

theorem denotes_of_hexValue? {c : Char} {n : Nat} (h : Percent.hexValue? c = some n) :
    c = Json.lowerHex n ∨ c = Percent.upperHex n := by
  unfold Percent.hexValue? at h
  dsimp only at h
  split at h
  · next hdigit =>
    obtain rfl := Option.some.inj h
    left
    rw [Json.lowerHex, if_pos (by omega), Nat.add_sub_cancel' hdigit.1, Char.ofNat_toNat]
  · split at h
    · next hupper =>
      obtain rfl := Option.some.inj h
      right
      rw [Percent.upperHex, if_neg (by omega), Nat.add_sub_cancel, Nat.add_sub_cancel' hupper.1, Char.ofNat_toNat]
    · split at h
      · next hlower =>
        obtain rfl := Option.some.inj h
        left
        rw [Json.lowerHex, if_neg (by omega), Nat.add_sub_cancel, Nat.add_sub_cancel' hlower.1, Char.ofNat_toNat]
      · cases h

theorem digit?_eq_some_iff {c : Char} {d : Fin 16} : digit? c = some d ↔ Denotes c d := by
  refine ⟨fun h => ?_, digit?_of_denotes⟩
  unfold digit? at h
  split at h
  · cases h
  · next n hn =>
    split at h
    · obtain rfl := Option.some.inj h
      exact denotes_of_hexValue? hn
    · cases h

theorem mapM_digit?_eq_some_iff {cs : List Char} {ds : List (Fin 16)} :
    cs.mapM digit? = some ds ↔ List.Forall₂ Denotes cs ds := by
  induction cs generalizing ds with
  | nil =>
    rw [List.mapM_nil, List.forall₂_nil_left_iff]
    exact ⟨fun h => (Option.some.inj h).symm, fun h => h ▸ rfl⟩
  | cons c cs ih =>
    rw [List.mapM_cons, List.forall₂_cons_left_iff]
    constructor
    · intro h
      obtain ⟨d, hd, h⟩ := Option.bind_eq_some_iff.1 h
      obtain ⟨ds', hds, h⟩ := Option.bind_eq_some_iff.1 h
      exact ⟨d, ds', digit?_eq_some_iff.1 hd, ih.1 hds, (Option.some.inj h).symm⟩
    · rintro ⟨d, ds', hd, hds, rfl⟩
      exact Option.bind_eq_some_iff.2 ⟨d, digit?_eq_some_iff.2 hd, Option.bind_eq_some_iff.2 ⟨ds', ih.2 hds, rfl⟩⟩

theorem ofDigits?_eq_some_iff {cs : List Char} {u : Uuid} :
    ofDigits? cs = some u ↔ List.Forall₂ Denotes cs u.digits := by
  rw [← mapM_digit?_eq_some_iff, ofDigits?]
  obtain ⟨ds, hlength⟩ := u
  cases hcs : cs.mapM digit? with
  | none => simp
  | some ds' =>
    by_cases h : ds'.length = 32
    · simp [h]
    · have hne : ds' ≠ ds := fun heq => h (heq ▸ hlength)
      simp [h, hne]

/-! ## Groups -/

/-- The characters `cs` are `ds` in groups of the lengths `ns`, with hyphens between the groups. -/
inductive Grouped : List Nat → List Char → List Char → Prop where
  | last (ds : List Char) : Grouped [ds.length] ds ds
  | cons {ns : List Nat} {cs ds : List Char} (group : List Char) :
    Grouped ns cs ds → Grouped (group.length :: ns) (group ++ '-' :: cs) (group ++ ds)

variable {ns : List Nat} {cs ds : List Char} {u : Uuid}

theorem Grouped.ne_nil (h : Grouped ns cs ds) : ns ≠ [] := by
  cases h <;> exact List.cons_ne_nil _ _

theorem Grouped.length_eq (h : Grouped ns cs ds) : ds.length = ns.sum ∧ cs.length + 1 = ns.sum + ns.length := by
  induction h with
  | last ds => simp
  | cons group h ih =>
    simp only [List.length_append, List.length_cons, List.sum_cons]
    omega

theorem readGroups_cons (h : ns ≠ []) (group cs : List Char) :
    readGroups (group.length :: ns) (group ++ '-' :: cs) = (readGroups ns cs).map (group ++ ·) := by
  obtain ⟨m, ms, rfl⟩ := List.exists_cons_of_ne_nil h
  simp only [readGroups, List.drop_left, List.take_left]

theorem grouped_of_readGroups (h : readGroups ns cs = some ds) : Grouped ns cs ds := by
  induction ns generalizing cs ds with
  | nil => cases h
  | cons n ns ih =>
    cases ns with
    | nil =>
      unfold readGroups at h
      split at h
      · next hlength =>
        obtain rfl := Option.some.inj h
        exact hlength ▸ .last cs
      · cases h
    | cons m ms =>
      unfold readGroups at h
      split at h
      · next rest hdrop =>
        obtain ⟨ds', hds, rfl⟩ := Option.map_eq_some_iff.1 h
        have hlt : n < cs.length := by
          have hpos : 0 < (cs.drop n).length := by rw [hdrop]; exact Nat.succ_pos _
          rw [List.length_drop] at hpos
          omega
        have hgroup := Grouped.cons (cs.take n) (ih hds)
        rwa [List.length_take_of_le hlt.le, ← hdrop, List.take_append_drop] at hgroup
      · cases h

theorem readGroups_eq_some_iff : readGroups ns cs = some ds ↔ Grouped ns cs ds := by
  refine ⟨grouped_of_readGroups, fun h => ?_⟩
  induction h with
  | last ds => exact if_pos rfl
  | cons group h ih => rw [readGroups_cons h.ne_nil, ih, Option.map_some]

theorem grouped_writeGroups (hn : ns ≠ []) (hsum : ds.length = ns.sum) : Grouped ns (writeGroups ns ds) ds := by
  induction ns generalizing ds with
  | nil => exact absurd rfl hn
  | cons n ns ih =>
    rw [List.sum_cons] at hsum
    cases ns with
    | nil =>
      obtain rfl : ds.length = n := hsum
      exact .last ds
    | cons m ms =>
      have hlength : (ds.drop n).length = (m :: ms).sum := by
        rw [List.length_drop]
        omega
      have hrest := ih (List.cons_ne_nil m ms) hlength
      have hgroup := Grouped.cons (ds.take n) hrest
      rwa [List.length_take_of_le (by omega), List.take_append_drop] at hgroup

theorem Grouped.unique {cs' : List Char} (h : Grouped ns cs ds) (h' : Grouped ns cs' ds) : cs = cs' := by
  induction h generalizing cs' with
  | last ds =>
    generalize hns : [ds.length] = ns at h'
    cases h' with
    | last => rfl
    | cons group h' => exact absurd (List.cons.inj hns).2.symm h'.ne_nil
  | @cons ns cs ds group h ih =>
    generalize hns : group.length :: ns = ms at h'
    generalize hds : group ++ ds = es at h'
    cases h' with
    | last => exact absurd (List.cons.inj hns).2 h.ne_nil
    | cons group' h' =>
      obtain ⟨hlength, rfl⟩ := List.cons.inj hns
      obtain ⟨rfl, rfl⟩ := List.append_inj hds hlength
      rw [ih h']

/-- Without its first group, a grouped text is grouped still. -/
theorem Grouped.tail {n m : Nat} (h : Grouped (n :: m :: ns) cs ds) :
    Grouped (m :: ns) (cs.drop (n + 1)) (ds.drop n) := by
  cases h with
  | @cons _ cs ds group h =>
    rw [← List.drop_drop, List.drop_left, List.drop_left]
    exact h

theorem Grouped.head?_eq {n : Nat} (h : Grouped ((n + 1) :: ns) cs ds) : cs.head? = ds.head? := by
  generalize hns : (n + 1) :: ns = ms at h
  cases h with
  | last => rfl
  | cons group h =>
    have hne : group ≠ [] := List.ne_nil_of_length_pos ((List.cons.inj hns).1 ▸ Nat.succ_pos n)
    rw [List.head?_append_of_ne_nil _ hne, List.head?_append_of_ne_nil _ hne]

/-! ## Spellings -/

/-- The accepted spellings of an identifier. -/
inductive Spelling : List Char → Uuid → Prop where
  | plain {ds : List Char} {u : Uuid} : List.Forall₂ Denotes ds u.digits → Spelling ds u
  | hyphenated {cs ds : List Char} {u : Uuid} : Grouped [8, 4, 4, 4, 12] cs ds →
    List.Forall₂ Denotes ds u.digits → Spelling cs u
  | braced {cs ds : List Char} {u : Uuid} : Grouped [8, 4, 4, 4, 12] cs ds →
    List.Forall₂ Denotes ds u.digits → Spelling ('\x7b' :: (cs ++ ['\x7d'])) u
  | named {word cs ds : List Char} {u : Uuid} : word = "urn:uuid:".toList ∨ word = "URN:UUID:".toList →
    Grouped [8, 4, 4, 4, 12] cs ds → List.Forall₂ Denotes ds u.digits → Spelling (word ++ cs) u

theorem ofGrouped?_eq_some_iff :
    ofGrouped? cs = some u ↔ ∃ ds, Grouped groups cs ds ∧ List.Forall₂ Denotes ds u.digits := by
  rw [ofGrouped?, Option.bind_eq_some_iff]
  simp only [readGroups_eq_some_iff, ofDigits?_eq_some_iff]

theorem Grouped.length_uuid (h : Grouped groups cs ds) : cs.length = 36 := Nat.succ.inj h.length_eq.2

theorem exists_of_ends {a b : Char} (hhead : cs.head? = some a) (hlast : cs.getLast? = some b)
    (hlength : 1 < cs.length) : cs = a :: ((cs.drop 1).dropLast ++ [b]) := by
  obtain ⟨tail, rfl⟩ := List.head?_eq_some_iff.1 hhead
  have hne : tail ≠ [] := List.ne_nil_of_length_pos (by simpa using hlength)
  have hb : tail.getLast hne = b := by
    rw [List.getLast?_cons_of_ne_nil hne, List.getLast?_eq_getLast_of_ne_nil hne] at hlast
    exact Option.some.inj hlast
  rw [List.drop_one, List.tail_cons, ← hb, List.dropLast_concat_getLast]

theorem spelling_of_parse? (h : parse? cs = some u) : Spelling cs u := by
  unfold parse? at h
  split at h
  · exact .plain (ofDigits?_eq_some_iff.1 h)
  · obtain ⟨ds, hgroups, hdigits⟩ := ofGrouped?_eq_some_iff.1 h
    exact .hyphenated hgroups hdigits
  · next hlength =>
    split at h
    · next hends =>
      obtain ⟨ds, hgroups, hdigits⟩ := ofGrouped?_eq_some_iff.1 h
      rw [exists_of_ends hends.1 hends.2 (by omega)]
      exact .braced hgroups hdigits
    · cases h
  · split at h
    · next hword =>
      obtain ⟨ds, hgroups, hdigits⟩ := ofGrouped?_eq_some_iff.1 h
      have hmem : cs.take 9 = "urn:uuid:".toList ∨ cs.take 9 = "URN:UUID:".toList := by
        simpa [schemes] using List.contains_iff_mem.1 hword
      rw [← List.take_append_drop 9 cs]
      exact .named hmem hgroups hdigits
    · cases h
  · cases h

theorem parse?_of_spelling (h : Spelling cs u) : parse? cs = some u := by
  cases h with
  | plain hdigits =>
    have hlength : cs.length = 32 := hdigits.length_eq.trans u.length_eq
    rw [parse?, hlength]
    exact ofDigits?_eq_some_iff.2 hdigits
  | hyphenated hgroups hdigits =>
    rw [parse?, hgroups.length_uuid]
    exact ofGrouped?_eq_some_iff.2 ⟨_, hgroups, hdigits⟩
  | @braced cs ds _ hgroups hdigits =>
    have hlength : ('\x7b' :: (cs ++ ['\x7d'])).length = 38 := by simp [hgroups.length_uuid]
    have hlast : ('\x7b' :: (cs ++ ['\x7d'])).getLast? = some '\x7d' := List.getLast?_concat (l := '\x7b' :: cs)
    rw [parse?, hlength]
    rw [if_pos ⟨rfl, hlast⟩, List.drop_one, List.tail_cons, List.dropLast_concat]
    exact ofGrouped?_eq_some_iff.2 ⟨_, hgroups, hdigits⟩
  | @named word cs ds _ hword hgroups hdigits =>
    have hnine : word.length = 9 := by rcases hword with rfl | rfl <;> rfl
    have hlength : (word ++ cs).length = 45 := by rw [List.length_append, hnine, hgroups.length_uuid]
    have hmem : schemes.contains word = true := by rcases hword with rfl | rfl <;> rfl
    rw [parse?, hlength]
    rw [← hnine, List.take_left, List.drop_left, if_pos hmem]
    exact ofGrouped?_eq_some_iff.2 ⟨_, hgroups, hdigits⟩

theorem parse?_eq_some_iff : parse? cs = some u ↔ Spelling cs u := ⟨spelling_of_parse?, parse?_of_spelling⟩

theorem Spelling.unique {v : Uuid} (hu : Spelling cs u) (hv : Spelling cs v) : u = v :=
  Option.some.inj ((parse?_of_spelling hu).symm.trans (parse?_of_spelling hv))

/-- The visible characters of ASCII. -/
def Visible (c : Char) : Prop := 0x20 < c.toNat ∧ c.toNat < 0x7F

instance (c : Char) : Decidable (Visible c) := inferInstanceAs (Decidable (_ ∧ _))

theorem visible_of_digits {ds' : List (Fin 16)} (h : List.Forall₂ Denotes ds ds') : ∀ c ∈ ds, Visible c := by
  have hall : ∀ d : Fin 16, Visible (Json.lowerHex d.val) ∧ Visible (Percent.upperHex d.val) := by decide
  induction h with
  | nil => exact List.forall_mem_nil _
  | @cons c d _ _ hdenotes _ ih =>
    refine List.forall_mem_cons.2 ⟨?_, ih⟩
    rcases hdenotes with rfl | rfl
    · exact (hall d).1
    · exact (hall d).2

theorem Grouped.visible (h : Grouped ns cs ds) (hds : ∀ c ∈ ds, Visible c) : ∀ c ∈ cs, Visible c := by
  induction h with
  | last ds => exact hds
  | cons group h ih =>
    obtain ⟨hgroup, hrest⟩ := List.forall_mem_append.1 hds
    exact List.forall_mem_append.2 ⟨hgroup, List.forall_mem_cons.2 ⟨by decide, ih hrest⟩⟩

/-- A spelling has visible characters of ASCII only. -/
theorem Spelling.visible (h : Spelling cs u) : ∀ c ∈ cs, Visible c := by
  cases h with
  | plain hdigits => exact visible_of_digits hdigits
  | hyphenated hgroups hdigits => exact hgroups.visible (visible_of_digits hdigits)
  | braced hgroups hdigits =>
    refine List.forall_mem_cons.2 ⟨by decide, List.forall_mem_append.2 ⟨?_, ?_⟩⟩
    · exact hgroups.visible (visible_of_digits hdigits)
    · exact List.forall_mem_singleton.2 (by decide)
  | named hword hgroups hdigits =>
    refine List.forall_mem_append.2 ⟨?_, hgroups.visible (visible_of_digits hdigits)⟩
    have hall : ("urn:uuid:".toList ++ "URN:UUID:".toList).all fun c => Visible c := by decide
    obtain ⟨hlower, hupper⟩ := List.forall_mem_append.1 (List.all_eq_true.1 hall)
    rcases hword with rfl | rfl
    · exact fun c hc => of_decide_eq_true (hlower c hc)
    · exact fun c hc => of_decide_eq_true (hupper c hc)

/-! ## The canonical form -/

/-- The text is the identifier in groups with hyphens, in lower-case digits. -/
def Canonical (text : String) (u : Uuid) : Prop :=
  Grouped [8, 4, 4, 4, 12] text.toList (u.digits.map fun d => Json.lowerHex d.val)

theorem canonical_canonical (u : Uuid) : Canonical u.canonical u := by
  rw [Canonical, canonical, String.toList_ofList]
  exact grouped_writeGroups (List.cons_ne_nil _ _) (by rw [List.length_map, u.length_eq]; rfl)

theorem Canonical.spelling {text : String} (h : Canonical text u) : Spelling text.toList u := by
  refine .hyphenated h ?_
  rw [List.forall₂_map_left_iff, List.forall₂_same]
  exact fun d _ => .inl rfl

theorem Canonical.eq_canonical {text : String} (h : Canonical text u) : text = u.canonical :=
  String.toList_injective (Grouped.unique h u.canonical_canonical)

theorem canonical_inj {v : Uuid} : u.canonical = v.canonical ↔ u = v := by
  refine ⟨fun h => ?_, fun h => h ▸ rfl⟩
  exact u.canonical_canonical.spelling.unique (h ▸ v.canonical_canonical.spelling)

/-! ## The value -/

/-- The number that the identifier stands for, its first digit in the highest place. -/
def value (u : Uuid) : Nat := Nat.ofDigits 16 (u.digits.map Fin.val).reverse

theorem lt_of_mem_digits (u : Uuid) : ∀ x ∈ (u.digits.map Fin.val).reverse, x < 16 := by
  intro x hx
  obtain ⟨d, -, rfl⟩ := List.mem_map.1 (List.mem_reverse.1 hx)
  exact d.isLt

theorem value_lt (u : Uuid) : u.value < 2 ^ 128 := by
  have hlt := Nat.ofDigits_lt_base_pow_length (by decide) u.lt_of_mem_digits
  rw [List.length_reverse, List.length_map, u.length_eq] at hlt
  exact lt_of_lt_of_eq hlt (by decide)

theorem value_inj {u v : Uuid} : u.value = v.value ↔ u = v := by
  refine ⟨fun h => ?_, fun h => h ▸ rfl⟩
  have hlength : ∀ w : Uuid, (w.digits.map Fin.val).reverse.length = 32 := fun w => by
    rw [List.length_reverse, List.length_map, w.length_eq]
  have hdigits := Nat.ofDigits_inj_of_len_eq (by decide) ((hlength u).trans (hlength v).symm)
    u.lt_of_mem_digits v.lt_of_mem_digits h
  have heq : u.digits = v.digits := List.map_injective_iff.2 (fun _ _ => Fin.ext) (List.reverse_injective hdigits)
  cases u
  cases v
  cases heq
  rfl

end FaultInjection.Http.Uuid
