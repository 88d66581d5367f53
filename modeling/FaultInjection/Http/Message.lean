import FaultInjection.Http.RequestError
import FaultInjection.Http.RequestId
import FaultInjection.Http.Target
import FaultInjection.Text.Utf8

/-!
# Requests and responses

A `Request` has a method, a target, an optional identifier, an optional declared length, and a
body of bytes. An `Exchange` is what a plane makes of it: the answer, and all that the request
changed or left behind.
-/

namespace FaultInjection.Http

open Text

/-- A request as a plane receives it. -/
structure Request where
  method : String
  target : Target
  /-- The value of the header that gives an identifier, as its bytes. -/
  requestId : Option (List UInt8)
  /-- The length that the request declares for its body. -/
  declaredLength : Option Nat
  body : List UInt8
  deriving DecidableEq, Repr

/-- Build a request from texts, unless one of them cannot be sent. Without `chunked`, a body that
is not empty declares its length. -/
def Request.build? (method target : String) (requestId : Option String) (chunked : Bool)
    (body : List UInt8) : Option Request :=
  match Target.parse? target with
  | none => none
  | some target =>
    if isMethod method && requestId.all isHeaderValue then
      let length := if chunked || body.isEmpty then none else some body.length
      some ⟨method, target, requestId.map Utf8.bytes, length, body⟩
    else none

/-- A response. -/
structure Response where
  status : Nat
  contentType : Option String
  /-- The methods of the route, named when the request used another. -/
  allow : Option String
  requestId : Option RequestId
  body : String
  deriving DecidableEq

namespace Response

/-- The content type of every text. -/
def plainText : String := "text/plain; charset=utf-8"

/-- The content type of a returned value. -/
def jsonText : String := "application/json"

/-- A response without a body. -/
def empty (status : Nat) : Response := ⟨status, none, none, none, ""⟩

/-- A response that carries text. -/
def text (status : Nat) (body : String) : Response := ⟨status, some plainText, none, none, body⟩

/-- A response that carries a value. -/
def value (l : Literal) : Response := ⟨200, some jsonText, none, none, l.json⟩

/-- The response for a request that a handler refuses. -/
def refused (e : RequestError) : Response := text e.status e.body

end Response

/-- How a plane answers: with a response, or not at all because the handler panicked. -/
inductive Answer where
  | response (r : Response)
  | panic (message : String)
  deriving DecidableEq

/-- An answer, and what the request left behind. -/
structure Exchange where
  answer : Answer
  trail : Trail

namespace Exchange

/-- Answer with a response and leave the registry alone. -/
def reply (t : Trail) (r : Response) : Exchange := ⟨.response r, t⟩

/-- Change the response, if there is one. -/
def mapResponse (f : Response → Response) (x : Exchange) : Exchange :=
  match x.answer with
  | .response r => { x with answer := .response (f r) }
  | .panic _ => x

end Exchange

/-- The segments of a raw path, which starts with a slash. -/
def pathSegments? : List Char → Option (List (List Char))
  | '/' :: cs => some (cs.splitOn '/')
  | _ => none

/-- The text of a path segment: percent signs are read, and the bytes must be UTF-8. -/
def decodeSegment? (segment : List Char) : Option String :=
  Utf8.decode? (Percent.decode (Utf8.encode segment))

/-- The refusal of a path segment that is no text; `parameter` is what the route calls it. -/
def badSegment (parameter : String) : Response :=
  .text 400 ("Invalid URL: Invalid UTF-8 in " ++ ticked parameter)

/-- What a body may weigh when no limit is configured. -/
def defaultBodyLimit : Nat := 2097152

/-- Whether the declared length alone rules a request out. -/
def exceedsDeclared (limit : Option Nat) (q : Request) : Bool :=
  match limit, q.declaredLength with
  | some most, some length => most < length
  | _, _ => false

/-- Whether reading the body hits a limit. -/
def exceedsRead (limit : Option Nat) (q : Request) : Bool :=
  min (limit.getD defaultBodyLimit) defaultBodyLimit < q.body.length

/-- The response when the declared length is too great. -/
def declaredTooLarge : Response := .text 413 "length limit exceeded"

/-- The response when too much body arrives. -/
def readTooLarge : Response := .text 413 "Failed to buffer the request body: length limit exceeded"

/-- Name the methods of the route in a response. -/
def Response.allowing (methods : List String) (r : Response) : Response :=
  { r with allow := some (",".intercalate methods) }

/-- Answers to a HEAD request have no body. -/
def Response.forMethod (method : String) (r : Response) : Response :=
  if method = "HEAD" then { r with body := "" } else r

/-- Attach the identifier of the request. -/
def Response.identified (q : Request) (r : Response) : Response :=
  { r with requestId := some (RequestId.ofBytes q.requestId) }

end FaultInjection.Http
