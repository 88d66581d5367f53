import FaultInjection.Url.Host
import FaultInjection.Url.Path

/-!
# Addresses

A `Url` holds the parts of an address in their normal form, and `Url.text` writes it.
-/

namespace FaultInjection

namespace Url

/-- Who is addressed, and where. -/
structure Authority where
  user : List Char
  password : List Char
  host : Host
  port : Option Nat
  deriving DecidableEq, Repr

/-- An authority as text. -/
def Authority.text (a : Authority) : List Char :=
  a.user ++ (if a.password.isEmpty then [] else ':' :: a.password)
    ++ (if a.user.isEmpty && a.password.isEmpty then [] else ['@'])
    ++ a.host.text
    ++ (match a.port with
        | some n => ':' :: Decimal.naturalDigits n
        | none => [])

end Url

/-- An address with a path of segments. -/
structure Url where
  scheme : List Char
  authority : Option Url.Authority
  /-- Whether the path is written behind `/.`: one that has no authority and began with an empty segment
  could be read as an authority without it. -/
  marked : Bool
  path : Url.Path
  query : Option (List Char)
  fragment : Option (List Char)
  deriving DecidableEq, Repr

namespace Url

/-- A part that may be missing, behind its mark. -/
def optional (mark : Char) : Option (List Char) → List Char
  | some cs => mark :: cs
  | none => []

/-- An address as text. -/
def text (u : Url) : String :=
  String.ofList (u.scheme ++ ':' ::
    ((match u.authority with
      | some a => '/' :: '/' :: a.text
      | none => if u.marked then ['/', '.'] else [])
      ++ u.path.text ++ optional '?' u.query ++ optional '#' u.fragment))

/-- The kind of the scheme. -/
def kind (u : Url) : SchemeKind := Scheme.kind u.scheme

/-- The same address with texts added to its path, each as one segment. -/
def push (u : Url) (segments : List (List Char)) : Url :=
  { u with path := segments.foldl (Path.push u.kind) u.path.dropFinalEmpty }

end Url

end FaultInjection
