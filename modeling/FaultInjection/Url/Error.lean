/-!
# Why a text is no address

The causes, and the sentence for each.
-/

namespace FaultInjection

/-- Why a text is no address. -/
inductive UrlError where
  | noScheme
  | emptyHost
  | domain
  | hostCharacter
  | ipv4
  | ipv6
  | port
  deriving DecidableEq, Repr

/-- The sentence for an error. -/
def UrlError.message : UrlError → String
  | noScheme => "relative URL without a base"
  | emptyHost => "empty host"
  | domain => "invalid international domain name"
  | hostCharacter => "invalid domain character"
  | ipv4 => "invalid IPv4 address"
  | ipv6 => "invalid IPv6 address"
  | port => "invalid port number"

end FaultInjection
