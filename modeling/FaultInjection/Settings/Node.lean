import FaultInjection.Decimal.Extended

/-!
# Layers of settings

Defaults, a file and the environment are merged into one tree of nodes. A value is put under a path,
which is a name followed by further names and places in lists; a table is merged into the table that
is there, name by name, and anything else replaces what was there. On the way to its place, a node
that is no table gives way to a table, and one that is no list to a list.
-/

namespace FaultInjection.Settings

open Decimal

/-- A node of the tree. -/
inductive Node where
  | null
  | bool (b : Bool)
  | integer (n : Int)
  | float (x : Extended)
  | text (s : String)
  | list (elements : List Node)
  | table (fields : List (String × Node))

/-- One step of a path. -/
inductive Step where
  | key (name : String)
  | place (index : Int)
  deriving DecidableEq, Repr

namespace Node

/-- The fields of a table; other nodes have none. -/
def fields : Node → List (String × Node)
  | table fs => fs
  | _ => []

/-- The elements of a list; other nodes have none. -/
def elements : Node → List Node
  | list xs => xs
  | _ => []

/-- The field with a name. -/
def field? (n : Node) (name : String) : Option Node := n.fields.lookup name

/-- Put a field among others, in the place of an earlier one. -/
def setField (name : String) (v : Node) : List (String × Node) → List (String × Node)
  | [] => [(name, v)]
  | (k, old) :: fs => if k == name then (name, v) :: fs else (k, old) :: setField name v fs

mutual

/-- The node that results when `v` is put where a node stands. -/
def merge : Node → Node → Node
  | table fs, old => table (mergeFields fs old.fields)
  | v, _ => v

/-- Merge fields into others, name by name. -/
def mergeFields : List (String × Node) → List (String × Node) → List (String × Node)
  | [], old => old
  | (name, v) :: fs, old => mergeFields fs (setField name (merge v ((old.lookup name).getD null)) old)

end

/-- A list that has a place, and the place counted from the start. A place before the start lengthens
the list there, one behind the end lengthens it at the end. -/
def extend (xs : List Node) (index : Int) : List Node × Nat :=
  match index with
  | .ofNat i => (xs ++ List.replicate (i + 1 - xs.length) null, i)
  | .negSucc i =>
    if i + 1 ≤ xs.length then (xs, xs.length - (i + 1))
    else (List.replicate (i + 1 - xs.length) null ++ xs, 0)

/-- Put a value at a path. -/
def putAt (v : Node) : List Step → Node → Node
  | [], old => merge v old
  | .key name :: steps, old =>
    table (setField name (putAt v steps ((old.field? name).getD null)) old.fields)
  | .place index :: steps, old =>
    let (xs, i) := extend old.elements index
    list (xs.set i (putAt v steps (xs.getD i null)))

end Node

/-- A character of a name in a path. -/
def isPathNameChar (c : Char) : Bool :=
  isDigit c || ('a' ≤ c && c ≤ 'z') || ('A' ≤ c && c ≤ 'Z') || c == '_' || c == '-'

/-- A blank that may stand around an index. -/
def isIndexSpace (c : Char) : Bool := c == ' ' || c == '\t'

/-- The index that a text denotes: an integer of sixty-four bits. Blanks around it do not count. -/
def indexOf? (cs : List Char) : Option Int :=
  let cs := ((cs.dropWhile isIndexSpace).reverse.dropWhile isIndexSpace).reverse
  match cs with
  | '-' :: ds => ((natural? ds).filter (· ≤ signedBound)).map fun n => -(n : Int)
  | ds => ((natural? ds).filter (· < signedBound)).map Int.ofNat

/-- Read the steps behind the first name of a path; `fuel` bounds their number. -/
def readSteps? : Nat → List Char → Option (List Step)
  | _, [] => some []
  | 0, _ => none
  | fuel + 1, '.' :: cs =>
    let name := cs.takeWhile isPathNameChar
    if name.isEmpty then none
    else (readSteps? fuel (cs.dropWhile isPathNameChar)).map (.key (String.ofList name) :: ·)
  | fuel + 1, '[' :: cs =>
    match indexOf? (cs.takeWhile (· != ']')), cs.dropWhile (· != ']') with
    | some i, _ :: rest => (readSteps? fuel rest).map (.place i :: ·)
    | _, _ => none
  | _, _ => none

/-- The path that a key stands for; a key that is no path is one name as it stands. -/
def pathOf (key : String) : List Step :=
  let cs := key.toList
  let name := cs.takeWhile isPathNameChar
  match readSteps? (cs.length + 1) (cs.dropWhile isPathNameChar) with
  | some steps => if name.isEmpty then [.key key] else .key (String.ofList name) :: steps
  | none => [.key key]

/-- Values under keys that are paths. -/
abbrev Layer := List (String × Node)

/-- Put every value of a layer into a tree. -/
def addLayer (root : Node) (layer : Layer) : Node :=
  layer.foldl (fun root (key, v) => Node.putAt v (pathOf key) root) root

end FaultInjection.Settings
