import FaultInjection.Name.Json
import FaultInjection.Proofs.Json.Literal
import FaultInjection.Proofs.Json.Strings
import FaultInjection.Proofs.Name
import FaultInjection.Proofs.Result
import FaultInjection.Proofs.Text.Utf8

/-!
# How names come about

A name is made of a text in memory or read from a JSON text. Both ways accept the same texts, and give the
text back unchanged (`construction_exact`): those that fulfil the contract of names when their length is
counted in characters. Counted in bytes the contract is stricter, and not all names fulfil it
(`ofString_long`).
-/

namespace FaultInjection.Name

open Text Json

/-- The contract of names, for a way to count the length of a text. -/
structure Eligible (length : String → Nat) (s : String) : Prop where
  ne_empty : s ≠ ""
  length_le : length s ≤ 256
  ne_reserved : s ≠ "failpoints"
  free : ∀ c ∈ s.toList, c ≠ '/' ∧ c ≠ '=' ∧ c ≠ ';' ∧ isBlank c = false

/-- The length of a text in characters. -/
def characters (s : String) : Nat := s.toList.length

/-- The length of a text in bytes. -/
def size (s : String) : Nat := (Utf8.bytes s).length

/-! ## Texts in memory -/

theorem isDelimiter_eq_false_iff {c : Char} :
    isDelimiter c = false ↔ c ≠ '/' ∧ c ≠ '=' ∧ c ≠ ';' ∧ isBlank c = false := by
  simp [isDelimiter, and_assoc]

theorem lengthFaults_eq_nil_iff {s : String} : lengthFaults s = [] ↔ s ≠ "" ∧ characters s ≤ 256 := by
  have hempty : 1 ≤ s.toList.length ↔ s ≠ "" := by
    rw [Nat.one_le_iff_ne_zero, Ne, List.length_eq_zero_iff, String.toList_eq_nil_iff]
  simp [lengthFaults, characters, hempty]

theorem characterFaults_eq_nil_iff {s : String} :
    characterFaults s = [] ↔ s ≠ "failpoints" ∧ ∀ c ∈ s.toList, isDelimiter c = false := by
  unfold characterFaults
  split
  · next h => simp [h, reservedWord]
  · next h =>
    split
    · next hany =>
      obtain ⟨c, hc, hd⟩ := List.any_eq_true.1 hany
      simp only [reduceCtorEq, false_iff]
      exact fun hall => Bool.false_ne_true ((hall.2 c hc).symm.trans hd)
    · next hany => exact ⟨fun _ => ⟨h, by simpa using hany⟩, fun _ => rfl⟩

theorem faults_eq_nil_iff {s : String} : faults s = [] ↔ Eligible characters s := by
  rw [faults, List.append_eq_nil_iff, lengthFaults_eq_nil_iff, characterFaults_eq_nil_iff]
  simp only [isDelimiter_eq_false_iff]
  exact ⟨fun ⟨⟨hne, hle⟩, hword, hfree⟩ => ⟨hne, hle, hword, hfree⟩,
    fun h => ⟨⟨h.ne_empty, h.length_le⟩, h.ne_reserved, h.free⟩⟩

theorem ofString_eq_ok_iff {s : String} {n : Name} : ofString s = .ok n ↔ n.text = s := by
  unfold ofString
  split
  · next h =>
    rw [Except.ok.injEq]
    exact ⟨fun hn => hn ▸ rfl, fun hn => by cases n; cases hn; rfl⟩
  · next h =>
    simp only [reduceCtorEq, false_iff]
    rintro rfl
    exact h n.faults_eq_nil

theorem exists_ofString_iff {s : String} : (∃ n, ofString s = .ok n) ↔ Eligible characters s := by
  simp only [ofString_eq_ok_iff, ← faults_eq_nil_iff]
  exact ⟨fun ⟨n, hn⟩ => hn ▸ n.faults_eq_nil, fun h => ⟨⟨s, h⟩, rfl⟩⟩

/-- A text of so many bytes has no more characters. -/
theorem characters_le_size (s : String) : characters s ≤ size s := by
  rw [characters, size, Utf8.bytes_eq_encode]
  generalize s.toList = cs
  induction cs with
  | nil => exact Nat.le_refl 0
  | cons c cs ih =>
    have hc : 1 ≤ (String.utf8EncodeChar c).length := by
      rw [String.length_utf8EncodeChar]
      exact c.utf8Size_pos
    rw [Utf8.encode_cons, List.length_append, List.length_cons]
    omega

theorem eligible_size_iff {s : String} : Eligible size s ↔ Eligible characters s ∧ size s ≤ 256 := by
  constructor
  · intro h
    exact ⟨⟨h.ne_empty, (characters_le_size s).trans h.length_le, h.ne_reserved, h.free⟩, h.length_le⟩
  · rintro ⟨h, hle⟩
    exact ⟨h.ne_empty, hle, h.ne_reserved, h.free⟩

/-! ## JSON -/

theorem parseJson?_eq_some_iff {text : String} {n : Name} :
    parseJson? text = some n ↔ JsonText text.toList (.string n.text) := by
  rw [← parse?_eq_string_iff]
  unfold parseJson?
  split
  · next s hs =>
    rw [toOption_eq_some_iff, ofString_eq_ok_iff, hs, Option.some.injEq, Value.string.injEq, eq_comm]
  · next hs =>
    simp only [reduceCtorEq, false_iff]
    exact hs _

/-- What is written of a name is a text of its string. -/
theorem jsonText_json (n : Name) : JsonText n.json.toList (.string n.text) := by
  obtain ⟨items, hbody, hjoin⟩ := exists_stringBody n.text.toList
  refine jsonText_string_iff.2 ⟨[], _, items, [], ?_, by simp [Spaces], by simp [Spaces], hbody,
    stringValue_eq_iff.2 hjoin⟩
  rw [json, String.toList_ofList, writeString]
  simp

/-- A text is made a name exactly if it fulfils the contract with its length in characters, and then it is
shown as it was. Every JSON text of it is read alike, what is written of the name among them. The names that
fulfil the contract with their length in bytes are those of at most 256 bytes. -/
theorem construction_exact (s : String) :
    ((∃ n, ofString s = .ok n) ↔ Eligible characters s) ∧
    (∀ n, ofString s = .ok n → n.text = s ∧ toString n = s ∧
      JsonText n.json.toList (.string s) ∧ parseJson? n.json = some n) ∧
    (∀ text, JsonText text.toList (.string s) → parseJson? text = (ofString s).toOption) ∧
    (Eligible size s ↔ (∃ n, ofString s = .ok n) ∧ size s ≤ 256) := by
  refine ⟨exists_ofString_iff, fun n hn => ?_, fun text htext => ?_, ?_⟩
  · obtain rfl := ofString_eq_ok_iff.1 hn
    have hjson := jsonText_json n
    exact ⟨rfl, rfl, hjson, parseJson?_eq_some_iff.2 hjson⟩
  · rw [parseJson?, parse?_eq_string_iff.2 htext]
  · rw [exists_ofString_iff]
    exact eligible_size_iff

/-- A text of 129 characters that take two bytes each. -/
def longText : String := String.ofList (List.replicate 129 'é')

/-- It is a name, for all its 258 bytes; so the contract with the length in bytes is not that of all names. -/
theorem ofString_long : (∃ n, ofString longText = .ok n ∧ parseJson? n.json = some n) ∧ size longText = 258 ∧
    ¬ ∀ s, (∃ n, ofString s = .ok n) ↔ Eligible size s := by
  have hsize : size longText = 258 := by decide +kernel
  have hfaults : faults longText = [] := by decide +kernel
  have hname : ofString longText = .ok ⟨longText, hfaults⟩ := ofString_eq_ok_iff.2 rfl
  refine ⟨⟨_, hname, parseJson?_eq_some_iff.2 (jsonText_json _)⟩, hsize, fun h => ?_⟩
  have hle := ((h longText).1 ⟨_, hname⟩).length_le
  rw [hsize] at hle
  exact absurd hle (by decide)

end FaultInjection.Name
