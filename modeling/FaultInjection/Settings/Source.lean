import FaultInjection.Json.Parser
import FaultInjection.Settings.Node
import FaultInjection.Toml.Parser

/-!
# Sources of settings

Each source gives a layer: the built-in defaults, a file, and the environment. A file is in TOML or
JSON, or in another format for which a reader is there. In the environment a variable counts if its
name, in lower case, starts with the prefix; two underscores separate the names of a path, and a value
that reads as a truth value or a number is one.
-/

namespace FaultInjection.Settings

open Decimal

mutual

/-- A TOML value as a node. -/
def nodeOfToml : Toml.Value → Node
  | .string s => .text s
  | .integer n => .integer n
  | .float x => .float x
  | .bool b => .bool b
  | .datetime s => .text s
  | .array vs => .list (nodesOfToml vs)
  | .table fs => .table (layerOfToml fs)

/-- TOML values as nodes. -/
def nodesOfToml : List Toml.Value → List Node
  | [] => []
  | v :: vs => nodeOfToml v :: nodesOfToml vs

/-- The fields of a TOML table as a layer. -/
def layerOfToml : List (String × Toml.Value) → Layer
  | [] => []
  | (k, v) :: fs => (k, nodeOfToml v) :: layerOfToml fs

end

/-- A JSON number as a node: an integer of sixty-four bits, with or without a sign, or else a double. -/
def nodeOfNumber (n : Json.Number) : Node :=
  match n.integer? with
  | some i => .integer i
  | none => .float (((n.double?).map .finite).getD .notANumber)

mutual

/-- A JSON value as a node. Of repeated members the last one counts. -/
def nodeOfJson : Json.Value → Node
  | .null => .null
  | .bool b => .bool b
  | .number n => nodeOfNumber n
  | .string s => .text s
  | .brokenString => .null
  | .array vs => .list (nodesOfJson vs)
  | .object ms => .table (layerOfJson ms)

/-- JSON values as nodes. -/
def nodesOfJson : List Json.Value → List Node
  | [] => []
  | v :: vs => nodeOfJson v :: nodesOfJson vs

/-- The members of a JSON object as a layer. -/
def layerOfJson : List (Option String × Json.Value) → Layer
  | [] => []
  | (none, _) :: ms => layerOfJson ms
  | (some k, v) :: ms =>
    if ms.any (·.1 == some k) then layerOfJson ms else (k, nodeOfJson v) :: layerOfJson ms

end

/-- A file of settings, as its text or, in a format that is not read here, as the layer that the reader
of that format makes of it, if it accepts the file. -/
inductive File where
  | toml (text : String)
  | json (text : String)
  | other (layer : Option Layer)

/-- The text of a file without the byte order mark that may come first. -/
def withoutMark (text : String) : String :=
  match text.toList with
  | '\uFEFF' :: rest => String.ofList rest
  | _ => text

/-- The layer of a file. Its root has to be a table. -/
def File.layer? : File → Option Layer
  | toml text => (Toml.parse? (withoutMark text)).map layerOfToml
  | json text =>
    match Json.parse? (withoutMark text) with
    | some (.object ms) =>
      if (Json.Value.object ms).isReadable Json.Value.maxDepth then some (layerOfJson ms) else none
    | _ => none
  | other layer => layer

/-- The layer of the built-in defaults. -/
def defaults : Layer :=
  [("server.host", .text "127.0.0.1"), ("server.port", .integer 1234), ("demo.port", .integer 8080),
    ("failpoints", .text "")]

/-- The start of every variable that counts. -/
def variableStart : List Char := "failswitch_".toList

/-- Replace every pair of underscores by a point. -/
def dotted : List Char → List Char
  | '_' :: '_' :: cs => '.' :: dotted cs
  | c :: cs => c :: dotted cs
  | [] => []

/-- The node that the text of a variable stands for. -/
def nodeOfText (s : String) : Node :=
  let cs := s.toList
  if Extended.lowered cs = "true".toList then .bool true
  else if Extended.lowered cs = "false".toList then .bool false
  else
    match signed? cs with
    | some n => .integer n
    | none =>
      match Extended.read? cs with
      | some x => .float x
      | none => .text s

/-- The entry of a variable, if it counts. -/
def entryOfVariable? (name value : String) : Option (String × Node) :=
  let lower := Extended.lowered name.toList
  if variableStart.isPrefixOf lower then
    some (String.ofList (dotted (lower.drop variableStart.length)), nodeOfText value)
  else none

/-- The layer of the environment. -/
def environmentLayer (environment : List (String × String)) : Layer :=
  environment.filterMap fun (name, value) => entryOfVariable? name value

end FaultInjection.Settings
