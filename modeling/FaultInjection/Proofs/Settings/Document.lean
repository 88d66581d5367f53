import FaultInjection.Proofs.Settings.Place
import FaultInjection.Settings.Source
import Mathlib.Data.List.Basic
import Mathlib.Data.Option.Basic

/-!
# JSON objects as trees

A JSON value is turned into a node with the same fields, of which none is repeated. A member that is given once is
found in both at the same place (`lookup_layerOfJson`), and a layer of plain names puts at a place just what its own
tree has there (`reaching_layerOfJson`).
-/

namespace FaultInjection

/-- The value at a place, the first one where members are repeated. -/
def Json.Value.at? : List String → Json.Value → Option Json.Value
  | [], v => some v
  | k :: ks, .object ms => (ms.lookup (some k)).bind (at? ks)
  | _ :: _, _ => none

namespace Settings

open Node Json

/-! ## Plain names -/

/-- A name that is no path: it has neither a point nor an opening bracket. -/
def PlainName (name : String) : Prop := ∀ c ∈ name.toList, c ≠ '.' ∧ c ≠ '['

instance (name : String) : Decidable (PlainName name) :=
  decidable_of_iff (name.toList.all (fun c => c ≠ '.' ∧ c ≠ '[') = true) (by simp [PlainName])

theorem readSteps?_eq_none {c : Char} (hpoint : c ≠ '.') (hbracket : c ≠ '[') (fuel : Nat) (cs : List Char) :
    readSteps? (fuel + 1) (c :: cs) = none := by
  unfold readSteps?
  split
  · next heq => cases heq
  · rfl
  · next heq => exact absurd (List.cons.inj heq).1 hpoint
  · next heq => exact absurd (List.cons.inj heq).1 hbracket
  · rfl

/-- A plain name stands for itself. -/
theorem pathOf_of_plain {name : String} (h : PlainName name) : pathOf name = [.key name] := by
  unfold pathOf
  cases hrest : name.toList.dropWhile isPathNameChar with
  | nil =>
    have hall : name.toList.takeWhile isPathNameChar = name.toList := by
      have happend := List.takeWhile_append_dropWhile (p := isPathNameChar) (l := name.toList)
      rwa [hrest, List.append_nil] at happend
    dsimp only
    rw [hrest, readSteps?, hall, String.ofList_toList]
    dsimp only
    split <;> rfl
  | cons c rest =>
    have hmem : c ∈ name.toList := (List.dropWhile_suffix isPathNameChar).mem (hrest ▸ List.mem_cons_self)
    obtain ⟨hpoint, hbracket⟩ := h c hmem
    dsimp only
    rw [hrest, readSteps?_eq_none hpoint hbracket]

/-! ## Fields -/

theorem mem_of_lookup {α β : Type} [BEq α] [LawfulBEq α] {fs : List (α × β)} {a : α} {b : β}
    (h : fs.lookup a = some b) : (a, b) ∈ fs := by
  obtain ⟨l₁, l₂, rfl, -⟩ := List.lookup_eq_some_iff.1 h
  exact List.mem_append_right l₁ List.mem_cons_self

variable {ms : List (Option String × Value)} {k : String} {n : Node}

theorem mem_layerOfJson (h : (k, n) ∈ layerOfJson ms) : ∃ v, (some k, v) ∈ ms ∧ n = nodeOfJson v := by
  induction ms with
  | nil => cases h
  | cons m ms ih =>
    obtain ⟨key, v⟩ := m
    have hlater : (k, n) ∈ layerOfJson ms → ∃ w, (some k, w) ∈ (key, v) :: ms ∧ n = nodeOfJson w := fun hmem => by
      obtain ⟨w, hw, hn⟩ := ih hmem
      exact ⟨w, List.mem_cons_of_mem _ hw, hn⟩
    cases key with
    | none => exact hlater h
    | some l =>
      rw [layerOfJson] at h
      split at h
      · exact hlater h
      · rcases List.mem_cons.1 h with heq | hmem
        · cases heq
          exact ⟨v, List.mem_cons_self, rfl⟩
        · exact hlater hmem

/-- No name is repeated among the fields of an object. -/
theorem nodup_layerOfJson (ms : List (Option String × Value)) : ((layerOfJson ms).map Prod.fst).Nodup := by
  induction ms with
  | nil => exact List.nodup_nil
  | cons m ms ih =>
    obtain ⟨key, v⟩ := m
    cases key with
    | none => exact ih
    | some l =>
      rw [layerOfJson]
      split
      · exact ih
      · next hlast =>
        rw [List.map_cons]
        refine List.nodup_cons.2 ⟨fun hmem => hlast ?_, ih⟩
        obtain ⟨⟨l', n⟩, hfield, rfl⟩ := List.mem_map.1 hmem
        obtain ⟨w, hw, -⟩ := mem_layerOfJson hfield
        exact List.any_eq_true.2 ⟨_, hw, beq_self_eq_true _⟩

/-- The name is given at most once. -/
def Once (ms : List (Option String × Value)) (k : String) : Prop := (ms.filter (·.1 == some k)).length ≤ 1

theorem Once.tail {m : Option String × Value} (h : Once (m :: ms) k) : Once ms k :=
  Nat.le_trans ((List.sublist_cons_self m ms).filter _).length_le h

theorem Once.ne_of_mem {v : Value} (h : Once ((some k, v) :: ms) k) : ∀ m ∈ ms, m.1 ≠ some k := by
  rw [Once, List.filter_cons_of_pos (by exact beq_self_eq_true _), List.length_cons, Nat.succ_le_succ_iff,
    Nat.le_zero, List.length_eq_zero_iff, List.filter_eq_nil_iff] at h
  exact fun m hm heq => h m hm (beq_iff_eq.2 heq)

theorem lookup_cons_of_ne {key : Option String} (h : key ≠ some k) (v : Value) :
    ((key, v) :: ms).lookup (some k) = ms.lookup (some k) := by
  rw [List.lookup_cons, beq_false_of_ne (Ne.symm h)]

theorem lookup_of_once {v : Value} (h : Once ms k) (hmem : (some k, v) ∈ ms) : ms.lookup (some k) = some v := by
  induction ms with
  | nil => cases hmem
  | cons m ms ih =>
    obtain ⟨key, w⟩ := m
    by_cases hkey : key = some k
    · subst hkey
      rcases List.mem_cons.1 hmem with heq | hlater
      · cases heq
        exact List.lookup_cons_self
      · exact absurd rfl (h.ne_of_mem _ hlater)
    · rcases List.mem_cons.1 hmem with heq | hlater
      · exact absurd (Prod.mk.inj heq).1.symm hkey
      · rw [lookup_cons_of_ne hkey, ih h.tail hlater]

/-- A member that is given once is the field with its name. -/
theorem lookup_layerOfJson (h : Once ms k) : (layerOfJson ms).lookup k = (ms.lookup (some k)).map nodeOfJson := by
  induction ms with
  | nil => rfl
  | cons m ms ih =>
    obtain ⟨key, v⟩ := m
    by_cases hkey : key = some k
    · subst hkey
      have hlast : ms.any (·.1 == some k) = false :=
        List.any_eq_false.2 fun m hm heq => h.ne_of_mem m hm (beq_iff_eq.1 heq)
      rw [layerOfJson, hlast, if_neg Bool.false_ne_true, List.lookup_cons_self, List.lookup_cons_self, Option.map_some]
    · rw [lookup_cons_of_ne hkey, ← ih h.tail]
      cases key with
      | none => rfl
      | some l =>
        have hne : l ≠ k := fun heq => hkey (congrArg some heq)
        rw [layerOfJson]
        split
        · rfl
        · rw [lookup_cons, if_neg hne]

/-! ## Places -/

theorem flatMap_field {α : Type} {fs : List (String × Node)} (h : (fs.map Prod.fst).Nodup) (k : String)
    (f : Node → List α) : (fs.flatMap fun e => if e.1 = k then f e.2 else []) = (fs.lookup k).elim [] f := by
  induction fs with
  | nil => rfl
  | cons e fs ih =>
    obtain ⟨name, n⟩ := e
    obtain ⟨hfirst, hrest⟩ := List.nodup_cons.1 h
    rw [List.flatMap_cons, ih hrest, lookup_cons]
    by_cases hname : name = k
    · subst hname
      have hnone : fs.lookup name = none := by
        refine List.lookup_eq_none_iff.2 fun e he => bne_iff_ne.2 ?_
        rintro rfl
        exact hfirst (List.mem_map.2 ⟨e, he, rfl⟩)
      rw [if_pos rfl, if_pos rfl, hnone]
      exact List.append_nil _
    · rw [if_neg hname, if_neg hname]
      rfl

theorem fields_nodeOfJson (v : Value) : ((nodeOfJson v).fields.map Prod.fst).Nodup := by
  cases v with
  | object ms => exact nodup_layerOfJson ms
  | number n =>
    rw [nodeOfJson, nodeOfNumber]
    split <;> exact List.nodup_nil
  | _ => exact List.nodup_nil

theorem exists_of_field? {v : Value} (h : (nodeOfJson v).field? k = some n) : ∃ w, n = nodeOfJson w := by
  cases v with
  | object ms =>
    obtain ⟨w, -, hn⟩ := mem_layerOfJson (mem_of_lookup h)
    exact ⟨w, hn⟩
  | number m =>
    rw [nodeOfJson, nodeOfNumber] at h
    split at h <;> cases h
  | _ => cases h

/-- What the node of a value puts at a place is what it has there. -/
theorem reaching_nodeOfJson (p : List String) (v : Value) :
    reaching p [] (nodeOfJson v) = ((nodeOfJson v).at? p).toList.map fun n => ([], n) := by
  induction p generalizing v with
  | nil => rfl
  | cons k ks ih =>
    rw [reaching, flatMap_field (fields_nodeOfJson v), at?, field?]
    cases hfield : (nodeOfJson v).fields.lookup k with
    | none => rfl
    | some n =>
      obtain ⟨w, rfl⟩ := exists_of_field? hfield
      exact ih w

/-- A layer of plain names puts at a place what its tree has there. -/
theorem reaching_layerOfJson (h : ∀ e ∈ layerOfJson ms, PlainName e.1) (k : String) (ks : List String) :
    Layer.reaching (k :: ks) (layerOfJson ms) =
      ((table (layerOfJson ms)).at? (k :: ks)).toList.map fun n => ([], n) := by
  have htable : table (layerOfJson ms) = nodeOfJson (.object ms) := rfl
  rw [htable, ← reaching_nodeOfJson, ← htable, Layer.reaching, reaching]
  refine List.flatMap_congr fun e he => ?_
  rw [pathOf_of_plain (h e he)]
  rfl

end Settings

end FaultInjection
