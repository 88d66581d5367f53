import FaultInjection.Text.Utf8
import FaultInjection.Url.Address
import FaultInjection.Url.Domain
import FaultInjection.Url.Encoding
import FaultInjection.Url.Error

/-!
# Hosts

A host is a name or a numeric address. Where the scheme is special a name is a domain name, and a name
that ends in a number has to be an IPv4 address; elsewhere it is any text without delimiters. An IPv6
address stands in brackets.
-/

namespace FaultInjection.Url

open Text

/-- A host. -/
inductive Host where
  | name (text : List Char)
  | ipv4 (address : Nat)
  | ipv6 (groups : List Nat)
  deriving DecidableEq, Repr

namespace Host

/-- A host as text. -/
def text : Host → List Char
  | name cs => cs
  | ipv4 address => Ipv4.text address
  | ipv6 groups => '[' :: Ipv6.text groups ++ [']']

/-- Whether a host is missing. -/
def isEmpty : Host → Bool
  | name cs => cs.isEmpty
  | _ => false

/-- Read the address behind an opening bracket. -/
def bracketed (cs : List Char) : Except UrlError Host :=
  if cs.getLast? = some ']' then
    match Ipv6.parse? cs.dropLast with
    | some groups => .ok (.ipv6 groups)
    | none => .error .ipv6
  else .error .ipv6

/-- The domain name that a text denotes when its percent signs are read. -/
def domain? (cs : List Char) : Option (List Char) :=
  match Utf8.decode? (Percent.decode (Utf8.encode cs)) with
  | some s => Domain.toAscii? s.toList
  | none => none

/-- Read the host of an address with a special scheme. -/
def parse (cs : List Char) : Except UrlError Host :=
  match cs with
  | '[' :: rest => bracketed rest
  | cs =>
    match domain? cs with
    | none => .error .domain
    | some [] => .error .emptyHost
    | some domain =>
      if Ipv4.isMeant domain then
        match Ipv4.parse? domain with
        | some address => .ok (.ipv4 address)
        | none => .error .ipv4
      else .ok (.name domain)

/-- A character that no host has. -/
def isForbidden (c : Char) : Bool := "\x00\t\n\r #/:<>?@[\\]^|".toList.contains c

/-- Read the host of an address with another scheme. -/
def parseOpaque (cs : List Char) : Except UrlError Host :=
  match cs with
  | '[' :: rest => bracketed rest
  | cs =>
    if cs.any isForbidden then .error .hostCharacter
    else .ok (.name (Percent.encode Encoding.isControl cs))

end Host

end FaultInjection.Url
