import FaultInjection.CommandLine.Command
import FaultInjection.CommandLine.Endpoint
import FaultInjection.Http.Message

/-!
# Carrying out commands

Every command is one request. `Command.call` says which; `execute` sends it with whatever can carry
requests, and gives the reply unchanged.
-/

namespace FaultInjection

/-- A request that is still to be sent, with the address it goes to. -/
structure Call where
  method : String
  url : Url
  body : String
  deriving DecidableEq, Repr

namespace Call

/-- A call as the addressed plane receives it. The fragment stays behind. -/
def request (c : Call) : Http.Request :=
  let body := Text.Utf8.bytes c.body
  ⟨c.method, ⟨c.url.path.text, c.url.query⟩, none, if body.isEmpty then none else some body.length, body⟩

end Call

namespace Command

/-- The method of the request. -/
def method : Command → String
  | list | get _ | count _ => "GET"
  | set .. | setMany _ => "PUT"
  | deactivate _ => "DELETE"

/-- The segments of the request's path behind the base. -/
def segments : Command → List String
  | list => []
  | get name | set name _ | deactivate name => [name]
  | count name => [name, "count"]
  | setMany _ => ["failpoints"]

/-- The text that the request carries. -/
def body : Command → String
  | set _ spec => spec
  | setMany assignments => assignments
  | _ => ""

/-- The request of a command to a control plane at an address. -/
def call (c : Command) (base : String) : Except EndpointError Call :=
  (endpoint base c.segments).map fun url => ⟨c.method, url, c.body⟩

end Command

/-- The answer to a command. -/
structure Reply where
  status : Nat
  body : String
  deriving DecidableEq, Repr

/-- Whether the control plane did what was asked. -/
def Reply.isSuccess (r : Reply) : Bool := 200 ≤ r.status && r.status < 300

/-- Why a command has no reply. -/
inductive ExecutionError where
  | endpoint (e : EndpointError)
  /-- The request or its answer was not carried. -/
  | transport
  deriving DecidableEq, Repr

/-- Send the request of a command and give the reply; `send` gives none if it cannot carry the request. -/
def execute {m : Type → Type} [Monad m] (send : Call → m (Option Reply)) (base : String) (c : Command) :
    m (Except ExecutionError Reply) :=
  match c.call base with
  | .error e => return .error (.endpoint e)
  | .ok call => return match ← send call with
    | some reply => .ok reply
    | none => .error .transport

end FaultInjection
