import FaultInjection.Error
import FaultInjection.Text.QuoteScan

/-!
# Bulk assignments

A bulk text holds entries `name=term` with semicolons between them. Neither a semicolon nor an
equals sign counts inside a quoted string. The name is taken without the blanks around it, the term
as it stands; blank entries are skipped, and an entry without an equals sign is malformed.
-/

namespace FaultInjection

open Text

/-- A name and the text to install under it. -/
structure Assignment where
  name : String
  spec : String
  deriving DecidableEq, Repr

namespace Assignment

/-- Read one entry. -/
def ofEntry (entry : List Char) : Except RegistryError Assignment :=
  match cutFirst '=' .outside entry with
  | none => .error (.malformedAssignment (String.ofList (trim entry)))
  | some (name, spec) => .ok ⟨String.ofList (trim name), String.ofList spec⟩

/-- The entries of a bulk text that are not blank. -/
def entries (body : String) : List (List Char) :=
  (pieces ';' .outside body.toList).filter fun entry => !entry.all isBlank

/-- Read a bulk text, each entry by itself. -/
def parseMany (body : String) : List (Except RegistryError Assignment) :=
  (entries body).map ofEntry

end Assignment

end FaultInjection
