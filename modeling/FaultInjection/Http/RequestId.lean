import FaultInjection.Text.Percent
import FaultInjection.Text.Utf8
import FaultInjection.Json.Text

/-!
# Request identifiers

A request may carry an identifier of 128 bits in one of four spellings: 32 hexadecimal digits, the
same in groups with hyphens, and the grouped form in braces or behind a fixed word. The response
echoes it in the grouped form with lower-case digits. Any other header makes for a fresh identifier,
as does one whose bytes are not all text of ASCII.
-/

namespace FaultInjection.Http

/-- An identifier of 128 bits as its thirty-two hexadecimal digits. -/
structure Uuid where
  digits : List (Fin 16)
  length_eq : digits.length = 32
  deriving DecidableEq

namespace Uuid

/-- The digit that a character denotes, in either case. -/
def digit? (c : Char) : Option (Fin 16) :=
  match Text.Percent.hexValue? c with
  | none => none
  | some n => if h : n < 16 then some ⟨n, h⟩ else none

/-- The lengths of the groups. -/
def groups : List Nat := [8, 4, 4, 4, 12]

/-- The digits in groups of the given lengths, with a hyphen between the groups. -/
def readGroups : List Nat → List Char → Option (List Char)
  | [], _ => none
  | [n], cs => if cs.length = n then some cs else none
  | n :: ns, cs =>
    match cs.drop n with
    | '-' :: rest => (readGroups ns rest).map (cs.take n ++ ·)
    | _ => none

/-- Thirty-two characters that are all hexadecimal digits. -/
def ofDigits? (cs : List Char) : Option Uuid :=
  match cs.mapM digit? with
  | none => none
  | some ds => if h : ds.length = 32 then some ⟨ds, h⟩ else none

/-- The grouped form. -/
def ofGrouped? (cs : List Char) : Option Uuid := (readGroups groups cs).bind ofDigits?

/-- The words that may stand before the grouped form. -/
def schemes : List (List Char) := ["urn:uuid:".toList, "URN:UUID:".toList]

/-- Read any of the accepted spellings, told apart by their lengths. -/
def parse? (cs : List Char) : Option Uuid :=
  match cs.length with
  | 32 => ofDigits? cs
  | 36 => ofGrouped? cs
  | 38 => if cs.head? = some '{' ∧ cs.getLast? = some '}' then ofGrouped? (cs.drop 1).dropLast else none
  | 45 => if schemes.contains (cs.take 9) then ofGrouped? (cs.drop 9) else none
  | _ => none

/-- Groups of the given lengths with hyphens between them. -/
def writeGroups : List Nat → List Char → List Char
  | [], cs => cs
  | [_], cs => cs
  | n :: ns, cs => cs.take n ++ '-' :: writeGroups ns (cs.drop n)

/-- The grouped form with lower-case digits. -/
def canonical (u : Uuid) : String :=
  String.ofList (writeGroups groups (u.digits.map fun d => Json.lowerHex d.val))

end Uuid

/-- The identifier of a response: that of the request, or a fresh one of version seven. -/
inductive RequestId where
  | given (id : Uuid)
  | fresh
  deriving DecidableEq

/-- The identifier for a request whose header has this text. -/
def RequestId.ofHeader (header : Option String) : RequestId :=
  match header.bind fun value => Uuid.parse? value.toList with
  | some id => .given id
  | none => .fresh

/-- Whether a byte of a header value may be read as text: a visible one of ASCII, a blank or a tab. -/
def isTextByte (b : UInt8) : Bool := (0x20 ≤ b.toNat && b.toNat < 0x7F) || b == 0x09

/-- The text of a header value, if its bytes may be read as text. -/
def headerText? (value : List UInt8) : Option String :=
  if value.all isTextByte then Text.Utf8.decode? value else none

/-- The identifier for a request whose header has these bytes as its value. -/
def RequestId.ofBytes (header : Option (List UInt8)) : RequestId := .ofHeader (header.bind headerText?)

/-- Whether a text can be the value of a header: it holds no control character but the tab. -/
def isHeaderValue (value : String) : Bool :=
  value.toList.all fun c => (0x20 ≤ c.toNat && c.toNat != 0x7F) || c == '\t'

end FaultInjection.Http
