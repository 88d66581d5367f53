import FaultInjection.Json.Number

/-!
# JSON values

Objects keep their members in the order of the text, repeated keys included, so that each reader
can decide what a repetition means. A string whose escapes name half of a surrogate pair is
grammatical but denotes no text; it is kept apart as `brokenString`, and as a key it is `none`.
-/

namespace FaultInjection.Json

/-- A JSON value. -/
inductive Value where
  | null
  | bool (b : Bool)
  | number (n : Number)
  | string (s : String)
  | brokenString
  | array (elements : List Value)
  | object (members : List (Option String × Value))
  deriving Repr

namespace Value

mutual

/-- Whether every string denotes a text, every number is finite as a double, and arrays and objects
are nested less than `depth` deep. -/
def isReadable : Nat → Value → Bool
  | _, null | _, bool _ | _, string _ => true
  | _, brokenString => false
  | _, number n => n.double?.isSome
  | 0, array _ | 0, object _ => false
  | depth + 1, array vs => areReadable depth vs
  | depth + 1, object ms => membersReadable depth ms

/-- `isReadable` for every element. -/
def areReadable : Nat → List Value → Bool
  | _, [] => true
  | depth, v :: vs => isReadable depth v && areReadable depth vs

/-- `isReadable` for the value of every member, and every key a text. -/
def membersReadable : Nat → List (Option String × Value) → Bool
  | _, [] => true
  | depth, (key, v) :: ms => key.isSome && isReadable depth v && membersReadable depth ms

end

/-- How deep arrays and objects may be nested. -/
def maxDepth : Nat := 127

end Value

end FaultInjection.Json
