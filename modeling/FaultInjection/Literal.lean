import FaultInjection.Decimal.Format
import FaultInjection.Json.Text
import FaultInjection.Text.Quoted

/-!
# Literals

The values that an action may return. A literal has two texts: `display`, as it is shown to people,
and `json`, as it goes over the wire. A float always shows a point or a power of ten in both, so it
is never taken for an integer.
-/

namespace FaultInjection

open Decimal

/-- A value that a term can return. -/
inductive Literal where
  | string (s : String)
  | integer (n : Int)
  | float (x : Binary64)
  | bool (b : Bool)
  deriving DecidableEq

namespace Literal

/-- The digits of an integer after its sign. -/
def writeInteger (n : Int) : List Char :=
  (if n < 0 then ['-'] else []) ++ naturalDigits n.natAbs

/-- The word for a truth value. -/
def writeBool (b : Bool) : List Char := (if b then "true" else "false").toList

/-- The literal as it is shown to people. -/
def display : Literal → String
  | string s => Text.quotedText s
  | integer n => String.ofList (writeInteger n)
  | float x => String.ofList (Format.display.write x)
  | bool b => String.ofList (writeBool b)

/-- The literal as JSON. -/
def json : Literal → String
  | string s => String.ofList (Json.writeString s.toList)
  | integer n => String.ofList (writeInteger n)
  | float x => String.ofList (Format.json.write x)
  | bool b => String.ofList (writeBool b)

end Literal

end FaultInjection
