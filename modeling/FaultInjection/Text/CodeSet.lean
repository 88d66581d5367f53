import FaultInjection.Text.Percent

/-!
# Tables of characters

Tables of the Unicode Standard are written as text: code points in hexadecimal, a range as its first and
its last code point around a hyphen, and blanks between the entries. `CodeSet.ofLines` reads a set of
code points written in this way.
-/

namespace FaultInjection.Text

/-- Whether a code point lies in one of the closed ranges. -/
def inRanges (n : Nat) (rs : List (Nat × Nat)) : Bool :=
  rs.any fun (lo, hi) => lo ≤ n && n ≤ hi

/-- The number that hexadecimal digits denote. -/
def hexNumber (cs : List Char) : Nat :=
  cs.foldl (fun n c => 16 * n + (Percent.hexValue? c).getD 0) 0

/-- The entries of a table between separators. -/
def entries (separator : Char) (cs : List Char) : List (List Char) :=
  (cs.splitOn separator).filter (! ·.isEmpty)

/-- The lines of a table as one text. -/
def tableText (lines : List String) : List Char := (" ".intercalate lines).toList

/-- A set of code points, as closed ranges. -/
abbrev CodeSet := List (Nat × Nat)

namespace CodeSet

/-- Read a code point or a range. -/
def readRange (cs : List Char) : Nat × Nat :=
  match cs.splitOn '-' with
  | [first, last] => (hexNumber first, hexNumber last)
  | _ => (hexNumber cs, hexNumber cs)

/-- Read a set. -/
def ofLines (lines : List String) : CodeSet := (entries ' ' (tableText lines)).map readRange

end CodeSet

end FaultInjection.Text
