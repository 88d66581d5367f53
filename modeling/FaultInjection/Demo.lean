import FaultInjection.Injection

/-!
# Instrumented demonstration functions

Three small functions with a failpoint each show every way in which an injection can act on a call.
`DemoFunction.call` runs one of them; a `Trail` gathers what its injections leave behind.
-/

namespace FaultInjection

/-- The functions that can be called. -/
inductive DemoFunction where
  /-- Gives a fixed text unless its failpoint returns a value. -/
  | plain
  /-- Gives a fixed text whatever its failpoint returns. -/
  | oneLine
  /-- Runs nested loops, where a return of its failpoint starts the next outer round. -/
  | labels
  deriving DecidableEq, Repr

/-- What injections leave behind: the registry, the log, the pauses, and the draws not yet taken. -/
structure Trail where
  registry : Registry
  events : List Event
  pauses : List Pause
  draws : Draws

namespace Trail

/-- The beginning of a trail. -/
def start (r : Registry) (d : Draws) : Trail := ⟨r, [], [], d⟩

/-- Inject once more. -/
def inject (t : Trail) (name : String) : Outcome × Trail :=
  let i := t.registry.inject name t.draws
  (i.outcome, ⟨i.registry, t.events ++ i.events, t.pauses ++ i.pauses, i.draws⟩)

end Trail

namespace DemoFunction

/-- Every function. -/
def all : List DemoFunction := [plain, oneLine, labels]

/-- The name under which a function is called. -/
def name : DemoFunction → String
  | plain => "ExampleFunc"
  | oneLine => "ExampleOneLineFunc"
  | labels => "ExampleLabelsFunc"

/-- The failpoint that a function consults. -/
def failpoint : DemoFunction → String
  | plain => "ExampleString"
  | oneLine => "ExampleOneLine"
  | labels => "ExampleLabels"

/-- The failpoints of all functions. -/
def failpoints : List String := all.map failpoint

/-- The number of arguments that a function takes. -/
def arity : DemoFunction → Nat
  | plain | oneLine | labels => 0

/-- The function with a name. -/
def named? (s : String) : Option DemoFunction := all.find? (·.name == s)

/-- The rounds of `labels`, and the hits in each of them. -/
def rounds : Nat := 5

/-- At most `hits` hits of the inner loop: a letter for each, and the message of a panic. -/
def innerLoop : Nat → Trail → List Char × Option String × Trail
  | 0, t => ([], none, t)
  | hits + 1, t =>
    match t.inject labels.failpoint with
    | (.panic message, t) => (['j'], some message, t)
    | (.ret _, t) => (['j'], none, t)
    | (.continue, t) =>
      let (letters, panicked, t) := innerLoop hits t
      ('j' :: letters, panicked, t)

/-- So many rounds of the outer loop, up to a panic. -/
def outerLoop : Nat → Trail → List Char × Option String × Trail
  | 0, t => ([], none, t)
  | n + 1, t =>
    match innerLoop rounds t with
    | (letters, some message, t) => ('i' :: letters, some message, t)
    | (letters, none, t) =>
      let (rest, panicked, t) := outerLoop n t
      ('i' :: letters ++ rest, panicked, t)

/-- Run a function: the value it gives, or the message of a panic. -/
def call (f : DemoFunction) (t : Trail) : Except String Literal × Trail :=
  match f with
  | plain =>
    match t.inject plain.failpoint with
    | (.panic message, t) => (.error message, t)
    | (.ret (some value), t) => (.ok value, t)
    | (.ret none, t) => (.ok (.string ""), t)
    | (.continue, t) => (.ok (.string "example"), t)
  | oneLine =>
    match t.inject oneLine.failpoint with
    | (.panic message, t) => (.error message, t)
    | (_, t) => (.ok (.string "abc"), t)
  | labels =>
    match outerLoop rounds t with
    | (_, some message, t) => (.error message, t)
    | (letters, none, t) => (.ok (.string (String.ofList letters)), t)

end DemoFunction

end FaultInjection
