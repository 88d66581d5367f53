import FaultInjection.Demo

/-!
# Requests that fail

The status and the body of every request that a handler refuses. Clients match on the bodies.
-/

namespace FaultInjection.Http

/-- Why a handler refuses a request. -/
inductive RequestError where
  | get (cause : RegistryError)
  | count (cause : RegistryError)
  | set (cause : RegistryError)
  | setMany (cause : RegistryError)
  | deactivate (cause : RegistryError)
  | unknownFunction (name : String)
  | wrongArity (function : DemoFunction)
  deriving DecidableEq, Repr

namespace RequestError

/-- The wording of an error. -/
def message : RequestError → String
  | get cause | count cause => "failed to GET: " ++ cause.message
  | set cause | setMany cause => "fail to set failpoint: " ++ cause.message
  | deactivate cause => "failed to delete failpoint: " ++ cause.message
  | unknownFunction name => "function " ++ name ++ " does not exist"
  | wrongArity function => "wrong number of arguments for function " ++ function.name

/-- The status of the response. -/
def status : RequestError → Nat
  | get _ | deactivate _ => 404
  | count cause => if cause.isNotFound then 404 else 500
  | set cause => if cause.isNotFound then 404 else 400
  | setMany _ | unknownFunction _ | wrongArity _ => 400

/-- The body of the response: one line, and after a failed reading of a term an empty one. -/
def body (e : RequestError) : String :=
  match e with
  | get _ => e.message ++ "\n\n"
  | e => e.message ++ "\n"

/-- The error of the registry behind it, if there is one. -/
def cause? : RequestError → Option RegistryError
  | get cause | count cause | set cause | setMany cause | deactivate cause => some cause
  | unknownFunction _ | wrongArity _ => none

end RequestError

end FaultInjection.Http
