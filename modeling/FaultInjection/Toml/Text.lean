import FaultInjection.Text.Percent
import FaultInjection.Decimal.Numeral

/-!
# Characters, comments and strings of TOML

The lexical parts of a TOML document: line ends, comments, and the four kinds of strings. Every
reader gives what it read and the text after it.
-/

namespace FaultInjection.Toml

open Text

/-- A blank within a line. -/
def isSpace (c : Char) : Bool := c == ' ' || c == '\t'

/-- The text without the blanks it starts with. -/
def skipSpace (cs : List Char) : List Char := cs.dropWhile isSpace

/-- A control character that may not stand in comments and strings. -/
def isControl (c : Char) : Bool := (c.toNat < 0x20 && c != '\t') || c.toNat == 0x7F

/-- A line end that starts the text, and the text after it. -/
def splitNewline? : List Char → Option (List Char × List Char)
  | '\n' :: rest => some (['\n'], rest)
  | '\r' :: '\n' :: rest => some (['\r', '\n'], rest)
  | _ => none

/-- The text after a line end. -/
def newline? (cs : List Char) : Option (List Char) := (splitNewline? cs).map (·.2)

/-- The text after a comment, if the text starts with one; a comment runs to the end of its line. -/
def skipComment (cs : List Char) : List Char :=
  match cs with
  | '#' :: rest => rest.dropWhile fun c => !isControl c
  | cs => cs

/-- The text after the rest of a line: blanks, a comment, and a line end or the end of the text. -/
def endLine? (cs : List Char) : Option (List Char) :=
  match skipComment (skipSpace cs) with
  | [] => some []
  | rest => newline? rest

/-- Skip blanks, comments and line ends; `fuel` bounds their number. -/
def skipLines : Nat → List Char → List Char
  | 0, cs => cs
  | fuel + 1, cs =>
    let rest := skipComment (skipSpace cs)
    match newline? rest with
    | some rest => skipLines fuel rest
    | none => rest

/-- The number that hexadecimal digits denote. -/
def hexNumber? (cs : List Char) : Option Nat :=
  cs.foldlM (fun n c => (Percent.hexValue? c).map (16 * n + ·)) 0

/-- The character with a code point, unless it is a surrogate or beyond the last one. -/
def scalar? (n : Nat) : Option Char := if n.isValidChar then some (Char.ofNat n) else none

/-- Read an escape from behind its backslash. -/
def readEscape? (cs : List Char) : Option (Char × List Char) :=
  let coded := fun (width : Nat) (rest : List Char) =>
    if (rest.take width).length = width then
      ((hexNumber? (rest.take width)).bind scalar?).map fun c => (c, rest.drop width)
    else none
  match cs with
  | 'b' :: rest => some ('\x08', rest)
  | 't' :: rest => some ('\t', rest)
  | 'n' :: rest => some ('\n', rest)
  | 'f' :: rest => some ('\x0c', rest)
  | 'r' :: rest => some ('\r', rest)
  | 'e' :: rest => some ('\x1b', rest)
  | '"' :: rest => some ('"', rest)
  | '\\' :: rest => some ('\\', rest)
  | 'x' :: rest => coded 2 rest
  | 'u' :: rest => coded 4 rest
  | 'U' :: rest => coded 8 rest
  | _ => none

/-- Read a basic string from behind its opening quote; `fuel` bounds its length. -/
def readBasic? : Nat → List Char → Option (List Char × List Char)
  | 0, _ => none
  | fuel + 1, cs =>
    match cs with
    | [] => none
    | '"' :: rest => some ([], rest)
    | '\\' :: rest =>
      match readEscape? rest with
      | none => none
      | some (c, rest) => (readBasic? fuel rest).map fun (s, after) => (c :: s, after)
    | c :: rest =>
      if isControl c then none else (readBasic? fuel rest).map fun (s, after) => (c :: s, after)

/-- Read a literal string from behind its opening quote. -/
def readLiteral? : List Char → Option (List Char × List Char)
  | [] => none
  | '\x27' :: rest => some ([], rest)
  | c :: rest =>
    if isControl c then none else (readLiteral? rest).map fun (s, after) => (c :: s, after)

/-- The text without the blanks and line ends it starts with. -/
def skipBlankLines : List Char → List Char
  | '\r' :: '\n' :: rest => skipBlankLines rest
  | c :: rest => if isSpace c || c == '\n' then skipBlankLines rest else c :: rest
  | [] => []

/-- The text after a backslash that ends a line: blanks and line ends are passed over. -/
def lineContinuation? (cs : List Char) : Option (List Char) := (newline? (skipSpace cs)).map skipBlankLines

/-- Whether three quotes end a string here: two more may still belong to it. -/
def closing? (quote : Char) (cs : List Char) : Option (List Char × List Char) :=
  let quotes := (cs.takeWhile (· == quote)).length
  if 3 ≤ quotes ∧ quotes ≤ 5 then some (List.replicate (quotes - 3) quote, cs.drop quotes) else none

/-- Read a string over several lines from behind its opening quotes; `basic` says that escapes count,
and `fuel` bounds its length. Line ends are kept as they are written. -/
def readLong? (quote : Char) (basic : Bool) : Nat → List Char → Option (List Char × List Char)
  | 0, _ => none
  | fuel + 1, cs =>
    match closing? quote cs with
    | some result => some result
    | none =>
      match splitNewline? cs with
      | some (ending, rest) => (readLong? quote basic fuel rest).map fun (s, after) => (ending ++ s, after)
      | none =>
        match cs with
        | [] => none
        | c :: rest =>
          if c = '\\' ∧ basic then
            match lineContinuation? rest with
            | some rest => readLong? quote basic fuel rest
            | none =>
              match readEscape? rest with
              | none => none
              | some (c, rest) => (readLong? quote basic fuel rest).map fun (s, after) => (c :: s, after)
          else if isControl c ∨ (c = quote ∧ 5 < (cs.takeWhile (· == quote)).length) then none
          else (readLong? quote basic fuel rest).map fun (s, after) => (c :: s, after)

/-- Read a string over several lines, without the line end it may start with. -/
def readLines? (quote : Char) (basic : Bool) (cs : List Char) : Option (List Char × List Char) :=
  readLong? quote basic (cs.length + 1) ((newline? cs).getD cs)

/-- Read a string of any kind that starts the text. -/
def readString? (cs : List Char) : Option (List Char × List Char) :=
  match cs with
  | '"' :: '"' :: '"' :: rest => readLines? '"' true rest
  | '\x27' :: '\x27' :: '\x27' :: rest => readLines? '\x27' false rest
  | '"' :: rest => readBasic? (rest.length + 1) rest
  | '\x27' :: rest => readLiteral? rest
  | _ => none

/-- A character of a key without quotes. -/
def isBareKeyChar (c : Char) : Bool :=
  Decimal.isDigit c || ('a' ≤ c && c ≤ 'z') || ('A' ≤ c && c ≤ 'Z') || c == '_' || c == '-'

/-- Read one part of a key. -/
def readKeyPart? (cs : List Char) : Option (String × List Char) :=
  let made := fun (p : List Char × List Char) => (String.ofList p.1, p.2)
  match cs with
  | '"' :: '"' :: '"' :: _ => none
  | '\x27' :: '\x27' :: '\x27' :: _ => none
  | '"' :: rest => (readBasic? (rest.length + 1) rest).map made
  | '\x27' :: rest => (readLiteral? rest).map made
  | cs =>
    let bare := cs.takeWhile isBareKeyChar
    if bare.isEmpty then none else some (made (bare, cs.dropWhile isBareKeyChar))

/-- Read a key of at most `most` parts, with points between them. -/
def readParts? : Nat → List Char → Option (List String × List Char)
  | 0, _ => none
  | most + 1, cs =>
    match readKeyPart? (skipSpace cs) with
    | none => none
    | some (part, rest) =>
      match skipSpace rest with
      | '.' :: rest => (readParts? most rest).map fun (parts, after) => (part :: parts, after)
      | rest => some ([part], rest)

/-- How many parts a key may have. -/
def maxKeyParts : Nat := 80

/-- Read a key. -/
def readKey? (cs : List Char) : Option (List String × List Char) := readParts? maxKeyParts cs

end FaultInjection.Toml
