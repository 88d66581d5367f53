import FaultInjection.Decimal.Numeral

/-!
# Schemes of addresses

An address starts with a scheme: a letter, then letters, digits, `+`, `-` and `.`, up to a colon. The
scheme decides how the rest is read. `Scheme.take?` reads it in lower case, and `Scheme.kind` sorts
schemes into files, those with a port of their own, and all others.
-/

namespace FaultInjection

namespace Url

/-- How the rest of an address is read. -/
inductive SchemeKind where
  | file
  /-- A scheme whose addresses have a host, and its usual port. -/
  | network (usualPort : Nat)
  | other
  deriving DecidableEq, Repr

namespace SchemeKind

/-- Whether a backslash separates like a slash, and whether a path is never missing. -/
def isSpecial : SchemeKind → Bool
  | other => false
  | _ => true

/-- The port that need not be written. -/
def usualPort? : SchemeKind → Option Nat
  | network n => some n
  | _ => none

/-- A character that separates the segments of a path. -/
def isSeparator (k : SchemeKind) (c : Char) : Bool := c == '/' || (k.isSpecial && c == '\\')

/-- A character that ends the authority. -/
def endsAuthority (k : SchemeKind) (c : Char) : Bool := k.isSeparator c || c == '?' || c == '#'

end SchemeKind

/-- A tab or the end of a line. An address may be broken anywhere. -/
def isIgnored (c : Char) : Bool := c == '\t' || c == '\n' || c == '\r'

/-- The characters of a text that count. -/
def significant (cs : List Char) : List Char := cs.filter (! isIgnored ·)

namespace Scheme

/-- The kind of a scheme. -/
def kind (scheme : List Char) : SchemeKind :=
  match String.ofList scheme with
  | "http" | "ws" => .network 80
  | "https" | "wss" => .network 443
  | "ftp" => .network 21
  | "file" => .file
  | _ => .other

/-- The lower-case form of an ASCII character. -/
def lowered (c : Char) : Char := if 'A' ≤ c ∧ c ≤ 'Z' then Char.ofNat (c.toNat + 0x20) else c

/-- An ASCII letter. -/
def isLetter (c : Char) : Bool := ('a' ≤ c && c ≤ 'z') || ('A' ≤ c && c ≤ 'Z')

/-- A character of a scheme. -/
def isChar (c : Char) : Bool := isLetter c || Decimal.isDigit c || c == '+' || c == '-' || c == '.'

/-- The scheme of an address, in lower case, and what follows its colon. -/
def take? (cs : List Char) : Option (List Char × List Char) :=
  let belongs := fun c => isChar c || isIgnored c
  let name := significant (cs.takeWhile belongs)
  match cs.dropWhile belongs with
  | ':' :: rest => if name.head?.any isLetter then some (name.map lowered, rest) else none
  | _ => none

end Scheme

end Url

end FaultInjection
