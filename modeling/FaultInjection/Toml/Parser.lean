import FaultInjection.Toml.Scalar
import FaultInjection.Toml.Table
import FaultInjection.Toml.Text

/-!
# Reading TOML

`Toml.parse?` reads a document line by line: blank lines and comments, headers of tables, headers of
arrays of tables, and assignments. It gives the fields of the root table.
-/

namespace FaultInjection.Toml

/-- How deep arrays and tables in braces may be nested. -/
def maxNesting : Nat := 80

mutual

/-- Read a value that starts the text, in which `depth` levels may be nested; `fuel` bounds the number of
steps. -/
def readValue? : Nat → Nat → List Char → Option (Value × List Char)
  | 0, _, _ => none
  | fuel + 1, depth, cs =>
    match cs, depth with
    | '[' :: rest, depth + 1 => (readElements? fuel depth rest).map fun (vs, after) => (.array vs, after)
    | '{' :: rest, depth + 1 =>
      (readFields? fuel depth [] rest).map fun (items, after) => (.table (fieldValues items), after)
    | cs, _ =>
      match readString? cs with
      | some (s, rest) => some (.string (String.ofList s), rest)
      | none => readScalar? cs

/-- Read the elements of an array up to its closing bracket. -/
def readElements? : Nat → Nat → List Char → Option (List Value × List Char)
  | 0, _, _ => none
  | fuel + 1, depth, cs =>
    match skipLines (cs.length + 1) cs with
    | ']' :: rest => some ([], rest)
    | cs =>
      match readValue? fuel depth cs with
      | none => none
      | some (v, rest) =>
        match skipLines (rest.length + 1) rest with
        | ']' :: rest => some ([v], rest)
        | ',' :: rest => (readElements? fuel depth rest).map fun (vs, after) => (v :: vs, after)
        | _ => none

/-- Read the fields of a table in braces up to its closing brace. -/
def readFields? : Nat → Nat → Items → List Char → Option (Items × List Char)
  | 0, _, _, _ => none
  | fuel + 1, depth, items, cs =>
    match skipLines (cs.length + 1) cs with
    | '}' :: rest => some (items, rest)
    | cs =>
      match readKey? cs with
      | none => none
      | some (path, rest) =>
        match skipLines (rest.length + 1) rest with
        | '=' :: rest =>
          match readValue? fuel depth (skipLines (rest.length + 1) rest) with
          | none => none
          | some (v, rest) =>
            match items.put v path, skipLines (rest.length + 1) rest with
            | some items, '}' :: rest => some (items, rest)
            | some items, ',' :: rest => readFields? fuel depth items rest
            | _, _ => none
        | _ => none

end

/-- What has been read of a document: its tables, and the path of the current header. -/
structure Document where
  items : Items
  current : List String

/-- Read a header behind its opening bracket, up to `closing`. -/
def readHeader? (closing : List Char) (cs : List Char) : Option (List String × List Char) :=
  match readKey? cs with
  | none => none
  | some (path, rest) =>
    if closing.isPrefixOf rest then (endLine? (rest.drop closing.length)).map fun rest => (path, rest)
    else none

/-- Read one assignment and the end of its line. -/
def readAssignment? (cs : List Char) : Option (List String × Value × List Char) :=
  match readKey? cs with
  | some (path, '=' :: rest) =>
    match readValue? (2 * rest.length + 2) maxNesting (skipSpace rest) with
    | none => none
    | some (v, rest) => (endLine? rest).map fun rest => (path, v, rest)
  | _ => none

/-- Read the lines of a document; `fuel` bounds their number. -/
def readLinesOf? : Nat → Document → List Char → Option Document
  | 0, _, _ => none
  | fuel + 1, d, cs =>
    match skipLines (cs.length + 1) cs with
    | [] => some d
    | '[' :: '[' :: rest =>
      match readHeader? [']', ']'] rest with
      | none => none
      | some (path, rest) =>
        (d.items.openElement path).bind fun items => readLinesOf? fuel ⟨items, path⟩ rest
    | '[' :: rest =>
      match readHeader? [']'] rest with
      | none => none
      | some (path, rest) =>
        (d.items.openTable path).bind fun items => readLinesOf? fuel ⟨items, path⟩ rest
    | cs =>
      match readAssignment? cs with
      | none => none
      | some (path, v, rest) =>
        (d.items.within (Items.put v path) d.current).bind fun items =>
          readLinesOf? fuel { d with items := items } rest

/-- Read a document: the fields of its root table. A byte order mark may come first. -/
def parse? (s : String) : Option (List (String × Value)) :=
  let cs := match s.toList with
    | '\uFEFF' :: rest => rest
    | cs => cs
  (readLinesOf? (cs.length + 1) ⟨[], []⟩ cs).map fun d => fieldValues d.items

end FaultInjection.Toml
