import FaultInjection.Decimal.Numeral

/-!
# Request targets

A request names its target in one of four forms: a path with an optional query, a full address, a
bare authority, or an asterisk. `Target.parse?` accepts the first with any characters that may be
sent, the others by their own rules, and keeps the path and the query. A fragment is dropped. An
authority by itself has an empty path.
-/

namespace FaultInjection.Http

/-- The path and the query of a request, neither of them decoded. -/
structure Target where
  path : List Char
  query : Option (List Char)
  deriving DecidableEq, Repr

namespace Target

/-- The number of bytes that a target may have. -/
def maxLength : Nat := 65534

/-- A character that may stand in a path. -/
def isPathChar (c : Char) : Bool :=
  let n := c.toNat
  n == 0x21 || n == 0x22 || (0x24 ≤ n && n ≤ 0x3B) || n == 0x3D || (0x40 ≤ n && n ≤ 0x5F)
    || (0x61 ≤ n && n != 0x7F)

/-- A character that may stand in a query. -/
def isQueryChar (c : Char) : Bool :=
  let n := c.toNat
  n == 0x21 || (0x24 ≤ n && n ≤ 0x3B) || n == 0x3D || (0x3F ≤ n && n != 0x7F)

/-- The text before a fragment. -/
def dropFragment (cs : List Char) : List Char := cs.takeWhile (· != '#')

/-- Read a path and an optional query. -/
def ofPathAndQuery? (cs : List Char) : Option Target :=
  let cs := dropFragment cs
  let path := cs.takeWhile (· != '?')
  let path' := if path.isEmpty then ['/'] else path
  if !path.all isPathChar then none
  else
    match cs.dropWhile (· != '?') with
    | [] => some ⟨path', none⟩
    | _ :: query => if query.all isQueryChar then some ⟨path', some query⟩ else none

/-- An ASCII letter or digit. -/
def isAlphanumeric (c : Char) : Bool :=
  Decimal.isDigit c || ('a' ≤ c && c ≤ 'z') || ('A' ≤ c && c ≤ 'Z')

/-- A character that may stand in an authority. -/
def isAuthorityChar (c : Char) : Bool := isAlphanumeric c || "-._~!$&'()*+,;=:[]@%".toList.contains c

/-- What has been seen of an authority since the last at-sign or closing bracket. -/
structure AuthorityScan where
  colons : Nat
  opened : Bool
  closed : Bool
  percent : Bool
  endsInAt : Bool

/-- Follow an authority by one character. -/
def AuthorityScan.step (s : AuthorityScan) (c : Char) : Option AuthorityScan :=
  let s := { s with endsInAt := false }
  if !isAuthorityChar c then none
  else if c = ':' then if 8 ≤ s.colons then none else some { s with colons := s.colons + 1 }
  else if c = '[' then if s.percent || s.opened then none else some { s with opened := true }
  else if c = ']' then
    if !s.opened || s.closed then none else some { s with closed := true, colons := 0, percent := false }
  else if c = '@' then some { s with colons := 0, percent := false, endsInAt := true }
  else if c = '%' then some { s with percent := true }
  else some s

/-- Whether a text is an authority: at most one colon counts for a port, brackets come as a pair,
a percent sign stands only before an at-sign or within brackets, and something follows the
at-sign. -/
def isAuthority (cs : List Char) : Bool :=
  match cs.foldlM AuthorityScan.step ⟨0, false, false, false, false⟩ with
  | none => false
  | some s => s.opened == s.closed && s.colons ≤ 1 && !s.endsInAt && !s.percent

/-- A character that may stand in a scheme. -/
def isSchemeChar (c : Char) : Bool :=
  isAlphanumeric c || c == '+' || c == '-' || c == '.' || c == '~'

/-- The text behind a scheme and `://`, if the text starts with one. -/
def afterScheme? (cs : List Char) : Option (List Char) :=
  match cs.dropWhile isSchemeChar with
  | ':' :: '/' :: '/' :: rest => if cs.length ≤ 3 then none else some rest
  | _ => none

/-- The length of the scheme before `://`. -/
def schemeLength (cs : List Char) : Nat := (cs.takeWhile isSchemeChar).length

/-- Read a full address or a bare authority. -/
def ofAuthority? (cs : List Char) : Option Target :=
  match afterScheme? cs with
  | none => if isAuthority cs then some ⟨[], none⟩ else none
  | some rest =>
    let ends := fun c => c == '/' || c == '?' || c == '#'
    let authority := rest.takeWhile (! ends ·)
    if 64 < schemeLength cs || authority.isEmpty || !isAuthority authority then none
    else ofPathAndQuery? (rest.dropWhile (! ends ·))

/-- Read a request target. -/
def parse? (s : String) : Option Target :=
  if maxLength < s.utf8ByteSize then none
  else
    match s.toList with
    | [] => none
    | ['*'] => some ⟨['*'], none⟩
    | '/' :: cs => ofPathAndQuery? ('/' :: cs)
    | cs => ofAuthority? cs

end Target

/-- Whether a text can be the name of a method. -/
def isMethod (s : String) : Bool :=
  !s.isEmpty && s.toList.all fun c =>
    Target.isAlphanumeric c || "!#$%&'*+-.^_|~\x60".toList.contains c

end FaultInjection.Http
