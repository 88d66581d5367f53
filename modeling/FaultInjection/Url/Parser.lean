import FaultInjection.Url.Basic

/-!
# Reading addresses

`Url.parse` reads an address as leniently as it can: blanks and controls around it are dropped, tabs and
line ends within it are ignored, and every part is brought to its normal form. An address whose path
has no segments, such as one of mail, has an opaque path; it is read but has no `Url`.
-/

namespace FaultInjection.Url

open Text

/-- What a text denotes as an address. -/
inductive Reading where
  | url (u : Url)
  /-- An address whose path is not made of segments. -/
  | opaquePath
  deriving DecidableEq, Repr

/-- Drop characters at both ends. -/
def trimmed (drop : Char → Bool) (cs : List Char) : List Char :=
  ((cs.dropWhile drop).reverse.dropWhile drop).reverse

/-- The text from its first character that counts. -/
def skipIgnored (cs : List Char) : List Char := cs.dropWhile isIgnored

/-- Cut a text before the first character that satisfies a test. -/
def cutBefore (test : Char → Bool) (cs : List Char) : List Char × List Char :=
  (cs.takeWhile (! test ·), cs.dropWhile (! test ·))

/-- Cut a text at its last `@`. -/
def cutLastAt? (cs : List Char) : Option (List Char × List Char) :=
  let after := (cs.reverse.takeWhile (· != '@')).reverse
  if cs.contains '@' then some (cs.take (cs.length - after.length - 1), after) else none

/-- The user and the password before the last `@` of an authority, and the rest. -/
def userInfo (authority : List Char) : (List Char × List Char) × List Char :=
  match cutLastAt? authority with
  | none => (([], []), authority)
  | some (info, rest) =>
    let (user, password) := cutBefore (· == ':') info
    ((Percent.encode Encoding.userInfo user, Percent.encode Encoding.userInfo (password.drop 1)), rest)

/-- Cut a host from the port behind it. A colon within brackets belongs to the host. -/
def cutHost : Bool → List Char → List Char × List Char
  | _, [] => ([], [])
  | bracketed, c :: cs =>
    if c = ':' ∧ !bracketed then ([], c :: cs)
    else
      let (host, rest) := cutHost (c == '[' || (bracketed && c != ']')) cs
      (c :: host, rest)

/-- The port behind a colon. No digits and the usual port of the scheme are as good as none. -/
def port (kind : SchemeKind) (cs : List Char) : Except UrlError (Option Nat) :=
  if cs.isEmpty then .ok none
  else match (Decimal.natural? cs).filter (· < 65536) with
    | some n => .ok (if kind.usualPort? = some n then none else some n)
    | none => .error .port

/-- Read the authority of an address, which `rest` follows, and give what is left to read. A backslash
ends a port under every scheme. -/
def parseAuthority (kind : SchemeKind) (cs rest : List Char) :
    Except UrlError (Authority × List Char) := do
  let ((user, password), address) := userInfo cs
  if cs.head? = some '@' ∧ address.isEmpty ∧ !rest.isEmpty then throw .emptyHost
  let (hostText, behind) := cutHost false address
  if kind.isSpecial ∧ hostText.isEmpty then throw .emptyHost
  let host ← if kind.isSpecial then Host.parse hostText else Host.parseOpaque hostText
  if host.isEmpty ∧ !behind.isEmpty then throw .emptyHost
  let (portText, left) := cutBefore (· == '\\') behind
  let port ← port kind (portText.drop 1)
  if host.isEmpty ∧ !(user.isEmpty && password.isEmpty) then throw .emptyHost
  return (⟨user, password, host, port⟩, left ++ rest)

/-- What follows the authority of an address, the path apart. -/
structure Tail where
  query : Option (List Char)
  fragment : Option (List Char)

/-- Cut the query and the fragment from a text and encode them. -/
def cutTail (kind : SchemeKind) (cs : List Char) : List Char × Tail :=
  let (before, fragment) := cutBefore (· == '#') cs
  let (path, query) := cutBefore (· == '?') before
  let part := fun (escape : Char → Bool) (cs : List Char) => match cs with
    | [] => none
    | _ :: cs => some (Percent.encode escape (significant cs))
  let escapeQuery := if kind.isSpecial then Encoding.specialQuery else Encoding.query
  (path, ⟨part escapeQuery query, part Encoding.fragment fragment⟩)

/-- Read an address from its authority on. -/
def parseFromAuthority (scheme cs : List Char) : Except UrlError Url := do
  let kind := Scheme.kind scheme
  let (authority, rest) := cutBefore kind.endsAuthority cs
  let (a, left) ← parseAuthority kind (significant authority) rest
  let (path, t) := cutTail kind left
  return ⟨scheme, some a, false, (Path.parse kind path).path, t.query, t.fragment⟩

/-- The address of a file. A drive takes the place of the host. -/
def fileUrl (scheme : List Char) (host : Host) (p : Path.Progress) (t : Tail) : Url :=
  let host := if p.onDrive then .name [] else host
  ⟨scheme, some ⟨[], [], host, none⟩, false, p.path, t.query, t.fragment⟩

/-- Whether a host is this computer, which need not be named. -/
def isLocal (host : Host) : Bool := host == .name [] || host == .name "localhost".toList

/-- The host that a file names, where it names one. -/
def fileHost (cs : List Char) : Except UrlError Host :=
  if cs.isEmpty then .ok (.name []) else Host.parse cs

/-- Read the address of a file behind its scheme and two separators. The letter of a drive may stand in
the place of the host. Where no host is named, the separator before the path opens an empty segment. -/
def parseFileHost (scheme cs : List Char) : Except UrlError Url := do
  let (hostText, behind) := cutBefore SchemeKind.file.endsAuthority cs
  if Segment.isDrive (significant hostText) then
    let (path, t) := cutTail .file cs
    return fileUrl scheme (.name []) (Path.read .file path) t
  else
    let host ← fileHost (significant hostText)
    let (path, t) := cutTail .file behind
    return if isLocal host then fileUrl scheme (.name []) (Path.read .file path) t
      else fileUrl scheme host (Path.parse .file path) t

/-- Read the address of a file behind its scheme. -/
def parseFile (scheme cs : List Char) : Except UrlError Url :=
  let (path, t) := cutTail .file (skipIgnored cs)
  let rooted := fileUrl scheme (.name []) (Path.parse .file path) t
  match skipIgnored cs with
  | a :: cs =>
    match skipIgnored cs with
    | b :: cs =>
      if SchemeKind.file.isSeparator a && SchemeKind.file.isSeparator b then parseFileHost scheme cs
      else .ok rooted
    | [] => .ok rooted
  | [] => .ok rooted

/-- Read an address that has no authority, behind its scheme. -/
def parseRooted (scheme cs : List Char) : Reading :=
  match cs with
  | '/' :: _ =>
    let (path, t) := cutTail .other cs
    let path := (Path.parse .other path).path
    .url ⟨scheme, none, path.head? = some [] ∧ 1 < path.length, path, t.query, t.fragment⟩
  | _ => .opaquePath

/-- The text behind two slashes, if the text starts with them. -/
def behindSlashes? (cs : List Char) : Option (List Char) :=
  match skipIgnored cs with
  | '/' :: cs =>
    match skipIgnored cs with
    | '/' :: cs => some cs
    | _ => none
  | _ => none

/-- Read an address. -/
def parse (s : String) : Except UrlError Reading :=
  match Scheme.take? (trimmed (fun c => c.toNat ≤ 0x20) s.toList) with
  | none => .error .noScheme
  | some (scheme, rest) =>
    match Scheme.kind scheme with
    | .file => (parseFile scheme rest).map .url
    | .network usual =>
      let isSeparator := (SchemeKind.network usual).isSeparator
      (parseFromAuthority scheme (rest.dropWhile fun c => isSeparator c || isIgnored c)).map .url
    | .other =>
      match behindSlashes? rest with
      | some rest => (parseFromAuthority scheme rest).map .url
      | none => .ok (parseRooted scheme (skipIgnored rest))

end FaultInjection.Url
