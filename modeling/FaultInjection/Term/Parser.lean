import FaultInjection.Term.Basic
import FaultInjection.Term.Chain
import FaultInjection.Term.Fault
import FaultInjection.Text.Blank

/-!
# Reading terms

`Term.parse` reads a chain of segments. A segment is an optional percentage with its sign, an
optional count with a star, and an action, which is a word with an optional argument in
parentheses. The chain is cut before any segment is read, so a string that never ends is the fault
of the whole text; otherwise the fault is that of the first segment that has one.
-/

namespace FaultInjection

open Decimal Text

/-- A character that may stand in a number before a percent sign or a star. -/
def isNumeric (c : Char) : Bool := isDigit c || c == '.' || c == '-' || c == '+'

/-- The number before the first `delimiter`, and the text after it. There is none if anything else
stands before the delimiter. -/
def numericHead (delimiter : Char) (cs : List Char) : Option (List Char × List Char) :=
  match cs.dropWhile (· != delimiter) with
  | [] => none
  | _ :: after =>
    let head := trim (cs.takeWhile (· != delimiter))
    if head ≠ [] ∧ head.all isNumeric then some (head, after) else none

/-- Read a percentage above zero and up to one hundred. -/
def readPercentage (cs : List Char) : Except TermFault Binary64 :=
  match Numeral.plain? cs with
  | some (x, []) =>
    match x.toBinary64? with
    | some p =>
      if Binary64.zero.lt p && !Binary64.hundred.lt p then .ok p
      else .error (.percentageOutOfRange (String.ofList cs))
    | none => .error (.percentageOutOfRange (String.ofList cs))
  | _ => .error (.invalidPercentage (String.ofList cs))

/-- Read a positive count of sixty-four bits. -/
def readCount (cs : List Char) : Except TermFault Nat :=
  match unsigned? wordBound cs with
  | some n => if n = 0 then .error (.invalidCount (String.ofList cs)) else .ok n
  | none => .error (.invalidCount (String.ofList cs))

/-- The character that an escape stands for. -/
def unescape? : Char → Option Char
  | '"' => some '"'
  | '\\' => some '\\'
  | 'n' => some '\n'
  | 't' => some '\t'
  | 'r' => some '\r'
  | _ => none

/-- Read a string from behind its opening quote: its characters, and the text after it. -/
def readQuoted : List Char → Except TermFault (List Char × List Char)
  | [] => .error .unterminatedString
  | ['\\'] => .error .unterminatedString
  | '"' :: rest => .ok ([], rest)
  | '\\' :: c :: rest =>
    match unescape? c with
    | none => .error (.unknownEscape c)
    | some d => (readQuoted rest).map fun (value, after) => (d :: value, after)
  | c :: rest => (readQuoted rest).map fun (value, after) => (c :: value, after)

/-- Read a text that is one string literal. -/
def readString (cs : List Char) : Except TermFault String :=
  match cs with
  | '"' :: body =>
    match readQuoted body with
    | .error e => .error e
    | .ok (value, after) =>
      if trim after = [] then .ok (String.ofList value)
      else .error (.textAfterString (String.ofList after))
  | cs => .error (.notAString (String.ofList cs))

/-- Read the digits of an integer or a float, after its sign. -/
def readNumber? (negative : Bool) (digits : List Char) : Option Literal :=
  if (digits.head?.any isDigit) && digits.all (fun c => isDigit c || c == '.') then
    if digits.contains '.' then
      match Numeral.unsigned? negative digits with
      | some (x, []) => x.toBinary64?.map .float
      | _ => none
    else
      let n := digitsValue digits
      if negative then (if n ≤ signedBound then some (.integer (-(n : Int))) else none)
      else if n < signedBound then some (.integer n) else none
  else none

/-- Read a literal. -/
def readLiteral (cs : List Char) : Except TermFault Literal :=
  let number := match cs with
    | '-' :: digits => readNumber? true digits
    | digits => readNumber? false digits
  if cs.head? = some '"' then (readString cs).map .string
  else if cs = "true".toList then .ok (.bool true)
  else if cs = "false".toList then .ok (.bool false)
  else match number with
    | some l => .ok l
    | none => .error (.malformedLiteral (String.ofList cs))

/-- Read the duration of a pause, bare or as a string. -/
def readPause (cs : List Char) : Except TermFault Duration :=
  let text := if cs.head? = some '"' then readString cs else .ok (String.ofList cs)
  match text with
  | .error e => .error e
  | .ok text => (Duration.parse text).mapError .invalidDuration

/-- Read an optional message. -/
def readMessage (argument : Option (List Char)) : Except TermFault (Option String) :=
  match argument.map trim with
  | none | some [] => .ok none
  | some cs => (readString cs).map some

/-- The text between an opening parenthesis and the last closing one, if anything is there. -/
def readArgument (rest : List Char) : Except TermFault (Option (List Char)) :=
  match rest with
  | [] => .ok none
  | '(' :: body =>
    match (trimEnd body).reverse with
    | ')' :: inner => .ok (some inner.reverse)
    | _ => .error (.textAfterAction (String.ofList rest))
  | _ => .error (.textAfterAction (String.ofList rest))

/-- A letter of an action's name. -/
def isNameLetter (c : Char) : Bool := ('a' ≤ c && c ≤ 'z') || ('A' ≤ c && c ≤ 'Z')

/-- Read an action. -/
def readAction (cs : List Char) : Except TermFault Action :=
  let name := String.ofList (cs.takeWhile isNameLetter)
  match readArgument (trimStart (cs.dropWhile isNameLetter)) with
  | .error e => .error e
  | .ok argument =>
    if name = "off" then
      match argument with
      | none => .ok .off
      | some _ => .error .argumentOfOff
    else if name = "return" then
      match argument.map trim with
      | none | some [] => .ok (.ret none)
      | some text => (readLiteral text).map fun l => .ret (some l)
    else if name = "sleep" then
      match argument.map trim with
      | none | some [] => .error .missingDuration
      | some text => (readPause text).map .sleep
    else if name = "panic" then (readMessage argument).map .panic
    else if name = "print" then (readMessage argument).map .print
    else if name = "" then .error (.missingAction (String.ofList cs))
    else .error (.unknownAction name)

/-- Read an optional number before a delimiter with `read`, and give what follows it. -/
def readGate {α : Type} (delimiter : Char) (read : List Char → Except TermFault α)
    (cs : List Char) : Except TermFault (Option α × List Char) :=
  match numericHead delimiter cs with
  | none => .ok (none, cs)
  | some (head, after) => (read head).map fun x => (some x, trimStart after)

/-- Read one segment. -/
def readSegment (text : String) : Except TermFault Segment :=
  let cs := trim text.toList
  if cs = [] then .error .emptySegment
  else do
    let (percentage, cs) ← readGate '%' readPercentage cs
    let (count, cs) ← readGate '*' readCount cs
    let action ← readAction cs
    return ⟨percentage, count, action⟩

/-- Read a term. -/
def Term.parse (spec : String) : Except TermFault Term :=
  if isBlankText spec then .error .emptyTerm
  else
    match Chain.split? spec with
    | none => .error .unterminatedString
    | some parts => (parts.mapM readSegment).map fun segments => ⟨spec, segments⟩

end FaultInjection
