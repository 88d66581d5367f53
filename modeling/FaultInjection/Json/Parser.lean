import FaultInjection.Json.Value
import FaultInjection.Text.Percent

/-!
# Reading JSON

`Json.parse?` reads a whole text as one value. Strings are read in two steps: `readItems` finds the
closing quote and resolves every escape on its own, and `joinItems` puts surrogate pairs together.
-/

namespace FaultInjection.Json

open Decimal

/-- Whether a character may stand between tokens. -/
def isSpace (c : Char) : Bool := c == ' ' || c == '\t' || c == '\n' || c == '\r'

/-- The text without the spaces it starts with. -/
def skipSpace (cs : List Char) : List Char := cs.dropWhile isSpace

/-- A character of a string, or a sixteen-bit unit that an escape names. -/
inductive StringItem where
  | char (c : Char)
  | codeUnit (n : Nat)
  deriving DecidableEq, Repr

/-- What an escape of one letter stands for. -/
def simpleEscape? : Char → Option Char
  | '"' => some '"'
  | '\\' => some '\\'
  | '/' => some '/'
  | 'b' => some '\x08'
  | 'f' => some '\x0c'
  | 'n' => some '\n'
  | 'r' => some '\r'
  | 't' => some '\t'
  | _ => none

/-- The value of four hexadecimal digits. -/
def hex4? (a b c d : Char) : Option Nat :=
  match Text.Percent.hexValue? a, Text.Percent.hexValue? b, Text.Percent.hexValue? c,
      Text.Percent.hexValue? d with
  | some a, some b, some c, some d => some (((a * 16 + b) * 16 + c) * 16 + d)
  | _, _, _, _ => none

/-- Read a string from behind its opening quote, with the text after its closing quote. -/
def readItems : List Char → Option (List StringItem × List Char)
  | [] => none
  | '"' :: rest => some ([], rest)
  | '\\' :: 'u' :: a :: b :: c :: d :: rest =>
    match hex4? a b c d, readItems rest with
    | some n, some (items, after) => some (.codeUnit n :: items, after)
    | _, _ => none
  | '\\' :: c :: rest =>
    match simpleEscape? c, readItems rest with
    | some e, some (items, after) => some (.char e :: items, after)
    | _, _ => none
  | c :: rest =>
    if c.toNat < 0x20 then none
    else (readItems rest).map fun (items, after) => (.char c :: items, after)

/-- The text that items denote: the two halves of a surrogate pair are one character, and a half
without its other half denotes nothing. -/
def joinItems : List StringItem → Option (List Char)
  | [] => some []
  | .char c :: items => (joinItems items).map (c :: ·)
  | .codeUnit n :: .codeUnit m :: items =>
    if 0xD800 ≤ n ∧ n < 0xDC00 then
      if 0xDC00 ≤ m ∧ m < 0xE000 then
        (joinItems items).map (Char.ofNat (0x10000 + (n - 0xD800) * 0x400 + (m - 0xDC00)) :: ·)
      else none
    else if 0xDC00 ≤ n ∧ n < 0xE000 then none
    else (joinItems (.codeUnit m :: items)).map (Char.ofNat n :: ·)
  | .codeUnit n :: items =>
    if 0xD800 ≤ n ∧ n < 0xE000 then none else (joinItems items).map (Char.ofNat n :: ·)

/-- The value that a string denotes. -/
def stringValue (items : List StringItem) : Value :=
  match joinItems items with
  | some cs => .string (String.ofList cs)
  | none => .brokenString

/-- Read the digits behind a point, if there is one. -/
def readFraction? (cs : List Char) : Option (List Char × List Char) :=
  match cs with
  | '.' :: ds =>
    let (digits, rest) := spanDigits ds
    if digits.isEmpty then none else some (digits, rest)
  | cs => some ([], cs)

/-- Read a power of ten, if there is one. -/
def readPower? (cs : List Char) : Option (Option Int × List Char) :=
  match cs with
  | [] => some (none, [])
  | c :: ds =>
    if c = 'e' ∨ c = 'E' then
      let (negative, ds) := match ds with
        | '-' :: ds => (true, ds)
        | '+' :: ds => (false, ds)
        | ds => (false, ds)
      let (digits, rest) := spanDigits ds
      let n := digitsValue digits
      if digits.isEmpty then none else some (some (if negative then -(n : Int) else n), rest)
    else some (none, cs)

/-- Read a number. A zero is not followed by further digits. -/
def readNumber? (cs : List Char) : Option (Number × List Char) :=
  let (negative, cs) := match cs with
    | '-' :: ds => (true, ds)
    | ds => (false, ds)
  let (whole, rest) := spanDigits cs
  if whole.isEmpty || (whole.head? == some '0' && whole.length != 1) then none
  else
    match readFraction? rest with
    | none => none
    | some (fraction, rest) =>
      match readPower? rest with
      | none => none
      | some (power, rest) => some (⟨negative, whole, fraction, power⟩, rest)

/-- Whether a text starts with a word, and what follows it. -/
def word? (word : String) (cs : List Char) : Option (List Char) :=
  if word.toList.isPrefixOf cs then some (cs.drop word.toList.length) else none

mutual

/-- Read a value that starts the text; `fuel` bounds the number of nested values and members. -/
def readValue? : Nat → List Char → Option (Value × List Char)
  | 0, _ => none
  | fuel + 1, cs =>
    match cs with
    | '"' :: rest => (readItems rest).map fun (items, after) => (stringValue items, after)
    | '[' :: rest =>
      match skipSpace rest with
      | ']' :: rest => some (.array [], rest)
      | rest => (readElements? fuel rest).map fun (vs, after) => (.array vs, after)
    | '{' :: rest =>
      match skipSpace rest with
      | '}' :: rest => some (.object [], rest)
      | rest => (readMembers? fuel rest).map fun (ms, after) => (.object ms, after)
    | cs =>
      match word? "null" cs, word? "true" cs, word? "false" cs with
      | some rest, _, _ => some (.null, rest)
      | _, some rest, _ => some (.bool true, rest)
      | _, _, some rest => some (.bool false, rest)
      | _, _, _ => (readNumber? cs).map fun (n, rest) => (.number n, rest)

/-- Read the elements of an array up to its closing bracket. -/
def readElements? : Nat → List Char → Option (List Value × List Char)
  | 0, _ => none
  | fuel + 1, cs =>
    match readValue? fuel (skipSpace cs) with
    | none => none
    | some (v, rest) =>
      match skipSpace rest with
      | ']' :: rest => some ([v], rest)
      | ',' :: rest => (readElements? fuel rest).map fun (vs, after) => (v :: vs, after)
      | _ => none

/-- Read the members of an object up to its closing brace. -/
def readMembers? : Nat → List Char → Option (List (Option String × Value) × List Char)
  | 0, _ => none
  | fuel + 1, cs =>
    match skipSpace cs with
    | '"' :: rest =>
      match readItems rest with
      | none => none
      | some (items, rest) =>
        match skipSpace rest with
        | ':' :: rest =>
          match readValue? fuel (skipSpace rest) with
          | none => none
          | some (v, rest) =>
            let member := ((joinItems items).map String.ofList, v)
            match skipSpace rest with
            | '}' :: rest => some ([member], rest)
            | ',' :: rest => (readMembers? fuel rest).map fun (ms, after) => (member :: ms, after)
            | _ => none
        | _ => none
    | _ => none

end

/-- Read a whole text as one value. -/
def parse? (s : String) : Option Value :=
  let cs := s.toList
  match readValue? (2 * cs.length + 2) (skipSpace cs) with
  | some (v, rest) => if (skipSpace rest).isEmpty then some v else none
  | none => none

end FaultInjection.Json
