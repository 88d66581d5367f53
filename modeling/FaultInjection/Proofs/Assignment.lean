import FaultInjection.Assignment
import FaultInjection.Proofs.Text.Blank
import FaultInjection.Proofs.Text.QuoteScan
import FaultInjection.Name

/-!
# Writing bulk texts

`Assignment.writeMany` joins assignments to a bulk text, and `parseMany_writeMany` says that they are
read from it again, if each is `Carried`: a name without quotes and delimiters, and a term that is
sealed against semicolons, whatever its strings hold.
-/

namespace FaultInjection.Assignment

open Text

/-- One entry of a bulk text. -/
def write (a : Assignment) : String := a.name ++ "=" ++ a.spec

/-- Entries with semicolons between them. -/
def writeMany (as : List Assignment) : String := ";".intercalate (as.map write)

/-- An assignment that a bulk text can carry. -/
structure Carried (a : Assignment) : Prop where
  name : ∀ c ∈ a.name.toList, c ≠ '"' ∧ Name.isDelimiter c = false
  spec : Sealed (· = ';') a.spec.toList

variable {a : Assignment}

theorem toList_write (a : Assignment) : a.write.toList = a.name.toList ++ '=' :: a.spec.toList := by
  rw [write, String.toList_append, String.toList_append, List.append_assoc]
  rfl

/-- A character that a name may not hold does not end the name early. -/
theorem Carried.name_sealed (h : a.Carried) {d : Char} (hd : Name.isDelimiter d = true) :
    Sealed (· = d) a.name.toList := by
  refine sealed_of_forall fun c hc => ⟨(h.name c hc).1, ?_⟩
  rintro rfl
  exact Bool.false_ne_true ((h.name c hc).2.symm.trans hd)

theorem Carried.name_tight (h : a.Carried) : Tight a.name.toList := by
  refine tight_of_forall fun c hc => ?_
  have hd := (h.name c hc).2
  simp only [Name.isDelimiter, Bool.or_eq_false_iff] at hd
  exact hd.2

theorem Carried.write_sealed (h : a.Carried) : Sealed (· = ';') a.write.toList := by
  have heq : Sealed (· = ';') ['='] := sealed_of_forall (by simp)
  rw [toList_write]
  exact (h.name_sealed (by decide)).append (heq.append h.spec)

theorem ofEntry_write (h : a.Carried) : ofEntry a.write.toList = .ok a := by
  rw [toList_write, ofEntry, cutFirst_of_sealed (h.name_sealed (by decide))]
  dsimp only
  rw [trim_of_tight h.name_tight, String.ofList_toList, String.ofList_toList]

theorem write_not_blank (a : Assignment) : (!a.write.toList.all isBlank) = true := by
  rw [toList_write, List.all_append, List.all_cons, show isBlank '=' = false by decide]
  simp

theorem entries_writeMany {as : List Assignment} (h : ∀ a ∈ as, Carried a) :
    entries (writeMany as) = as.map fun a => a.write.toList := by
  by_cases hn : as = []
  · subst hn
    rfl
  have hjoin : (writeMany as).toList = [';'].intercalate (as.map fun a => a.write.toList) := by
    rw [writeMany, String.toList_intercalate, List.map_map]
    rfl
  have hsealed : ∀ p ∈ as.map fun a => a.write.toList, Sealed (· = ';') p := by
    intro p hp
    obtain ⟨a, ha, rfl⟩ := List.mem_map.1 hp
    exact (h a ha).write_sealed
  rw [entries, hjoin, pieces_intercalate (by simpa using hn) hsealed]
  refine List.filter_eq_self.2 fun p hp => ?_
  obtain ⟨a, -, rfl⟩ := List.mem_map.1 hp
  exact write_not_blank a

/-- What was written is read again. -/
theorem parseMany_writeMany {as : List Assignment} (h : ∀ a ∈ as, Carried a) :
    parseMany (writeMany as) = as.map .ok := by
  rw [parseMany, entries_writeMany h, List.map_map]
  exact List.map_congr_left fun a ha => ofEntry_write (h a ha)

end FaultInjection.Assignment
