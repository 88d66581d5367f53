import FaultInjection.Proofs.Registry.Answers
import FaultInjection.Proofs.Text.Cutting

/-!
# Bulk texts one behind the other

Two bulk texts with a semicolon between them do what they do one after the other, if the quotes of the first
are closed: `parseMany_append` for what is read from them, `applyEntries_append` for what becomes of a
registry. Nothing of a bulk text is lost: it is cut at its unquoted semicolons, each piece that is not blank
is read, and what is read from it is settled by its first unquoted equals sign (`Reads`).
-/

namespace FaultInjection

open Text

namespace Assignment

/-- What is read from an entry: the name before its first unquoted equals sign and the text behind it, or that
there is no such sign. -/
inductive Reads (entry : List Char) : Except RegistryError Assignment → Prop where
  | assignment {i : Nat} : Unquoted '=' entry i → (∀ j < i, ¬ Unquoted '=' entry j) →
      Reads entry (.ok ⟨String.ofList (trim (entry.take i)), String.ofList (entry.drop (i + 1))⟩)
  | malformed : (∀ i, ¬ Unquoted '=' entry i) →
      Reads entry (.error (.malformedAssignment (String.ofList (trim entry))))

theorem reads_ofEntry (entry : List Char) : Reads entry (ofEntry entry) := by
  unfold ofEntry
  split
  · next h => exact .malformed (cutFirst_eq_none_iff.1 h)
  · next name spec h =>
    obtain ⟨i, hi, hfirst, rfl, rfl⟩ := exists_place_of_cutFirst h
    exact .assignment hi hfirst

/-- There is one result for each entry, in order. -/
theorem reads_entries (body : String) : List.Forall₂ Reads (entries body) (parseMany body) := by
  rw [parseMany, List.forall₂_map_right_iff, List.forall₂_same]
  exact fun entry _ => reads_ofEntry entry

theorem parseMany_append {a : String} (h : QuoteState.outside.scan a.toList = .outside) (b : String) :
    parseMany (a ++ ";" ++ b) = parseMany a ++ parseMany b := by
  have htext : (a ++ ";" ++ b).toList = a.toList ++ ';' :: b.toList := by
    rw [String.toList_append, String.toList_append, List.append_assoc]
    rfl
  rw [parseMany, entries, htext, pieces_append (by decide) h, List.filter_append, List.map_append]
  rfl

end Assignment

namespace Registry

theorem firstError_assoc (x y z : Except RegistryError Unit) :
    firstError (firstError x y) z = firstError x (firstError y z) := by
  cases x <;> rfl

/-- Entries are applied one part after the other. -/
theorem applyEntries_append (r : Registry) (front back : List (Except RegistryError Assignment)) :
    r.applyEntries (front ++ back) =
      ⟨((r.applyEntries front).registry.applyEntries back).registry,
        (r.applyEntries front).events ++ ((r.applyEntries front).registry.applyEntries back).events,
        firstError (r.applyEntries front).result ((r.applyEntries front).registry.applyEntries back).result⟩ := by
  induction front generalizing r with
  | nil => rfl
  | cons entry front ih =>
    rw [List.cons_append, applyEntries, ih, applyEntries]
    simp only [List.append_assoc, firstError_assoc]

open Assignment in
/-- Bulk texts compose. A text whose quotes are closed, a semicolon and another text are read as the first
and then the second, do to a registry what both do one after the other, log what both log, and fail with the
first of the two errors. And no part of a text is lost: its pieces are cut at its unquoted semicolons and give
it back, and those that are not blank are read one by one. -/
theorem bulk_texts_compose :
    (∀ a b : String, QuoteState.outside.scan a.toList = .outside →
      parseMany (a ++ ";" ++ b) = parseMany a ++ parseMany b ∧
      ∀ r : Registry,
        (r.assign (a ++ ";" ++ b)).registry = ((r.assign a).registry.assign b).registry ∧
        (r.assign (a ++ ";" ++ b)).events = (r.assign a).events ++ ((r.assign a).registry.assign b).events ∧
        (∀ e, (r.assign a).result = .error e → (r.assign (a ++ ";" ++ b)).result = .error e) ∧
        ((r.assign a).result = .ok () →
          (r.assign (a ++ ";" ++ b)).result = ((r.assign a).registry.assign b).result)) ∧
    (∀ body : String, Cutting ';' body.toList (pieces ';' .outside body.toList) ∧
      List.Forall₂ Reads ((pieces ';' .outside body.toList).filter fun p => !p.all isBlank)
        (parseMany body)) := by
  refine ⟨fun a b h => ⟨parseMany_append h b, fun r => ?_⟩, fun body => ⟨?_, reads_entries body⟩⟩
  · have happly : r.assign (a ++ ";" ++ b) = r.applyEntries (parseMany a ++ parseMany b) := by
      rw [assign, parseMany_append h]
    rw [happly, applyEntries_append]
    refine ⟨rfl, rfl, fun e he => ?_, fun hok => ?_⟩
    · have hfront : (r.applyEntries (parseMany a)).result = .error e := he
      dsimp only
      rw [hfront, firstError]
    · have hfront : (r.applyEntries (parseMany a)).result = .ok () := hok
      dsimp only
      rw [hfront]
      rfl
  · exact cutting_pieces (by decide) body.toList

/-- A text with delimiters and an escaped quote in a string, and an entry that is none. -/
def closedText : String := "a=print(\";\\\"=\");junk"

/-- A text whose last string is never closed. -/
def openText : String := " b =off;;c=\";b=print"

open Assignment in
/-- The delimiters in the strings do not count, and the open string hides none of what stands before it. -/
theorem bulk_texts_compose_openText :
    QuoteState.outside.scan closedText.toList = .outside ∧
    parseMany (closedText ++ ";" ++ openText) = [.ok ⟨"a", "print(\";\\\"=\")"⟩,
      .error (.malformedAssignment "junk"), .ok ⟨"b", "off"⟩, .ok ⟨"c", "\";b=print"⟩] ∧
    (twoNames.assign (closedText ++ ";" ++ openText)).registry.list =
      [("a", "print(\";\\\"=\")"), ("b", "off")] ∧
    (twoNames.assign (closedText ++ ";" ++ openText)).result = .error (.malformedAssignment "junk") := by
  have hclosed : QuoteState.outside.scan closedText.toList = .outside := by decide +kernel
  obtain ⟨hparse, hassign⟩ := bulk_texts_compose.1 closedText openText hclosed
  obtain ⟨hregistry, -, herror, -⟩ := hassign twoNames
  refine ⟨hclosed, ?_, ?_, herror _ (by decide +kernel)⟩
  · rw [hparse]
    decide +kernel
  · rw [hregistry]
    decide +kernel

end Registry

end FaultInjection
