import FaultInjection.Http.Message

/-!
# The control plane

Plain-text requests list, read, count, install and remove terms. `control` answers one request. A
declared length over the limit rules a request out before anything else; then the route and the
method are looked at, then the name in the path, then the body.
-/

namespace FaultInjection.Http

open Text

/-- Where the path of a control request leads. Names are still encoded. -/
inductive ControlRoute where
  | list
  | bulk
  | single (segment : List Char)
  | count (segment : List Char)
  deriving DecidableEq, Repr

namespace ControlRoute

/-- The route of a raw path. The reserved word has a route of its own; any other single segment is a
name, also when it denotes that word in percent signs. -/
def ofPath? (path : List Char) : Option ControlRoute :=
  match pathSegments? path with
  | some [[]] => some list
  | some [segment] => if segment = Name.reservedWord.toList then some bulk else some (single segment)
  | some [segment, word] => if word = "count".toList then some (count segment) else none
  | _ => none

/-- The methods that a route answers. -/
def methods : ControlRoute → List String
  | list | count _ => ["GET", "HEAD"]
  | bulk => ["PUT"]
  | single _ => ["GET", "HEAD", "PUT", "DELETE"]

end ControlRoute

/-- What a control request asks for. -/
inductive ControlCall where
  | list
  | get (name : String)
  | count (name : String)
  | set (name : String)
  | setMany
  | deactivate (name : String)
  deriving DecidableEq, Repr

/-- The lines of the listing. -/
def listing (r : Registry) : String :=
  String.join (r.list.map fun (name, term) => name ++ "=" ++ term ++ "\n")

/-- The error for a body that is no text. -/
def notText : RegistryError := .parse (.term "body is not valid UTF-8")

/-- The response to a change. -/
def changeResponse (refuse : RegistryError → RequestError) : Except RegistryError Unit → Response
  | .ok () => .empty 204
  | .error e => .refused (refuse e)

/-- The exchange for a change. -/
def changed (t : Trail) (refuse : RegistryError → RequestError) (c : Change) : Exchange :=
  ⟨.response (changeResponse refuse c.result),
    { t with registry := c.registry, events := t.events ++ c.events }⟩

/-- Install a term under a name. An unknown name is reported before a body that is no text. -/
def putTerm (t : Trail) (name : String) (body : List UInt8) : Exchange :=
  match t.registry.get name with
  | .error e => .reply t (.refused (.set e))
  | .ok _ =>
    match Utf8.decode? body with
    | none => .reply t (.refused (.set notText))
    | some spec => changed t .set (t.registry.set name spec)

/-- Install what a bulk text assigns. -/
def putTerms (t : Trail) (body : List UInt8) : Exchange :=
  match Utf8.decode? body with
  | none => .reply t (.refused (.setMany notText))
  | some text => changed t .setMany (t.registry.assign text)

/-- Carry out a call. -/
def ControlCall.run (t : Trail) (limit : Option Nat) (q : Request) : ControlCall → Exchange
  | list => .reply t (.text 200 (listing t.registry))
  | get name =>
    match t.registry.term name with
    | .error e => .reply t (.refused (.get e))
    | .ok term => .reply t (.text 200 (term ++ "\n"))
  | count name =>
    match t.registry.count name with
    | .error e => .reply t (.refused (.count e))
    | .ok n => .reply t (.text 200 (String.ofList (Decimal.naturalDigits n)))
  | set name => if exceedsRead limit q then .reply t readTooLarge else putTerm t name q.body
  | setMany => if exceedsRead limit q then .reply t readTooLarge else putTerms t q.body
  | deactivate name => changed t .deactivate (t.registry.deactivate name)

/-- The call that a method makes on a name. -/
def ControlCall.onName (method : String) (name : String) : ControlCall :=
  if method = "PUT" then .set name else if method = "DELETE" then .deactivate name else .get name

/-- The call that a method makes on a route, unless the name in the path is no text. -/
def ControlRoute.call? (method : String) : ControlRoute → Option ControlCall
  | list => some .list
  | bulk => some .setMany
  | single segment => (decodeSegment? segment).map (ControlCall.onName method)
  | count segment => (decodeSegment? segment).map .count

/-- Answer a request whose length is admitted. -/
def admitted (limit : Option Nat) (t : Trail) (q : Request) : Exchange :=
  match ControlRoute.ofPath? q.target.path with
  | none => .reply t (.empty 404)
  | some route =>
    if q.method ∈ route.methods then
      match route.call? q.method with
      | none => .reply t (badSegment "name")
      | some call => call.run t limit q
    else .reply t (.empty 405)

/-- The methods to name in the response, if the request used another on a known route. -/
def missedMethods? (q : Request) : Option (List String) :=
  match ControlRoute.ofPath? q.target.path with
  | none => none
  | some route => if q.method ∈ route.methods then none else some route.methods

/-- Answer a request to the control plane. -/
def control (limit : Option Nat) (r : Registry) (d : Draws) (q : Request) : Exchange :=
  let t := Trail.start r d
  let answered :=
    if exceedsDeclared limit q then .reply t declaredTooLarge
    else (admitted limit t q).mapResponse (·.identified q)
  let allowed := match missedMethods? q with
    | none => answered
    | some methods => answered.mapResponse (·.allowing methods)
  allowed.mapResponse (·.forMethod q.method)

end FaultInjection.Http
