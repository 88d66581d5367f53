import FaultInjection.Url.Parser

/-!
# Endpoints

An endpoint is a base address with segments added to its path. Whatever a segment holds, it stays one
segment: what would end it is percent-encoded.
-/

namespace FaultInjection

/-- Why a base address has no endpoints. -/
inductive EndpointError where
  | url (e : UrlError)
  /-- The path of the base is not made of segments. -/
  | opaquePath (base : String)
  deriving DecidableEq, Repr

/-- The sentence for an error. -/
def EndpointError.message : EndpointError → String
  | url e => e.message
  | opaquePath base => base ++ " cannot be used as a base URL"

/-- The address of segments under a base. -/
def endpoint (base : String) (segments : List String) : Except EndpointError Url :=
  match Url.parse base with
  | .error e => .error (.url e)
  | .ok .opaquePath => .error (.opaquePath base)
  | .ok (.url u) => .ok (u.push (segments.map String.toList))

end FaultInjection
