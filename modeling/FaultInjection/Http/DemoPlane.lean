import FaultInjection.Http.Message

/-!
# The demonstration plane

One route calls a demonstration function. Every query pair with the key `arg` is an argument. An
unknown function is reported before a wrong number of arguments, and neither reaches a failpoint.
-/

namespace FaultInjection.Http

open Text

/-- The keys of a query, in order. Empty pairs have none. -/
def queryKeys (query : List Char) : List String :=
  let pairs := ((Utf8.encode query).splitOn 0x26).filter (· ≠ [])
  pairs.map fun pair => Utf8.decodeLossy (Percent.decodeForm (pair.takeWhile (· != 0x3D)))

/-- The key of an argument. -/
def argumentKey : String := "arg"

/-- The number of arguments in a target. -/
def argumentCount (target : Target) : Nat :=
  match target.query with
  | none => 0
  | some query => (queryKeys query).count argumentKey

/-- The encoded name of the function that a raw path calls. -/
def calledSegment? (path : List Char) : Option (List Char) :=
  match pathSegments? path with
  | some [word, segment] => if word = "call".toList ∧ segment ≠ [] then some segment else none
  | _ => none

/-- The methods of the route. -/
def callMethods : List String := ["GET", "HEAD"]

/-- Call the function with a name. -/
def callNamed (t : Trail) (name : String) (arguments : Nat) : Exchange :=
  match DemoFunction.named? name with
  | none => .reply t (.refused (.unknownFunction name))
  | some f =>
    if arguments = f.arity then
      match f.call t with
      | (.ok l, t) => .reply t (.value l)
      | (.error message, t) => ⟨.panic message, t⟩
    else .reply t (.refused (.wrongArity f))

/-- Answer a request to the demonstration plane. -/
def demo (r : Registry) (d : Draws) (q : Request) : Exchange :=
  let t := Trail.start r d
  let answered : Exchange :=
    match calledSegment? q.target.path with
    | none => .reply t (.empty 404)
    | some segment =>
      if q.method ∈ callMethods then
        match decodeSegment? segment with
        | none => .reply t (badSegment "function")
        | some name => callNamed t name (argumentCount q.target)
      else .reply t ((Response.empty 405).allowing callMethods)
  answered.mapResponse fun r => (r.identified q).forMethod q.method

end FaultInjection.Http
