import FaultInjection.Registry

/-!
# Injection

Instrumented code asks the registry at each failpoint what to do. `evaluate` records a hit and says
whether to act. `inject` also enacts the action: it sleeps, logs a message, returns a value early,
or panics. `injectBlocking` is the variant for code that may block its thread; each of the two waits in
its own way.
-/

namespace FaultInjection

/-- Whether the call should act, and on what. -/
structure Evaluation where
  shouldAct : Bool
  action : Action
  deriving DecidableEq

/-- How an injection ends for the instrumented call. -/
inductive Outcome where
  /-- Carry on. -/
  | continue
  /-- Return early, with a value if there is one. -/
  | ret (value : Option Literal)
  /-- Fail with a message. -/
  | panic (message : String)
  deriving DecidableEq

/-- An evaluation with the registry, the log and the draws after it. -/
structure Evaluated where
  evaluation : Evaluation
  registry : Registry
  events : List Event
  draws : Draws

/-- How a pause is spent. -/
inductive Waiting where
  /-- Other tasks run meanwhile. -/
  | suspended
  /-- The thread stands still. -/
  | blocked
  deriving DecidableEq, Repr

/-- A pause that was made. -/
structure Pause where
  waiting : Waiting
  duration : Duration
  deriving DecidableEq, Repr

/-- The longest pause in milliseconds: thirty years of 365 days. -/
def Pause.maxMillis : Nat := 30 * 365 * 24 * 60 * 60 * 1000

/-- The milliseconds that pass while a task pauses, a part of one counted as a whole. -/
def Pause.millis (p : Pause) : Nat := min p.duration.ceilMillis maxMillis

/-- An injection with the registry, the log, the pauses and the draws after it. -/
structure Injected where
  outcome : Outcome
  registry : Registry
  events : List Event
  pauses : List Pause
  draws : Draws

namespace Registry

/-- Record a hit and say whether to act. Unknown and disabled failpoints never act. -/
def evaluate (r : Registry) (name : String) (d : Draws) : Evaluated :=
  match r.hit name d with
  | (.ok action, r, d) => ⟨⟨!action.isOff, action⟩, r, [], d⟩
  | (.error .notFound, r, d) => ⟨⟨false, .off⟩, r, [Event.unregistered name], d⟩
  | (.error _, r, d) => ⟨⟨false, .off⟩, r, [], d⟩

/-- What an action makes the instrumented call do. -/
def outcomeOf (name : String) : Action → Outcome
  | .off | .sleep _ | .print _ => .continue
  | .ret value => .ret value
  | .panic (some message) => .panic message
  | .panic none => .panic ("failpoint " ++ name ++ " panicked")

/-- What an action logs while it is enacted. -/
def eventsOf (name : String) : Action → List Event
  | .print (some message) => [Event.printed name message]
  | .print none => [Event.printed name ("failpoint " ++ name ++ " fired")]
  | _ => []

/-- Inject from code that runs as a task, which is suspended for a sleep. -/
def inject (r : Registry) (name : String) (d : Draws) : Injected :=
  let e := r.evaluate name d
  if e.evaluation.shouldAct then
    let fired := e.events ++ [Event.fired name e.evaluation.action.kind]
    match e.evaluation.action with
    | .sleep duration => ⟨.continue, e.registry, fired, [⟨.suspended, duration⟩], e.draws⟩
    | action => ⟨outcomeOf name action, e.registry, fired ++ eventsOf name action, [], e.draws⟩
  else ⟨.continue, e.registry, e.events, [], e.draws⟩

/-- Inject from code that may block its thread, as it does for a sleep. -/
def injectBlocking (r : Registry) (name : String) (d : Draws) : Injected :=
  let e := r.evaluate name d
  if e.evaluation.shouldAct then
    let fired := e.events ++ [Event.fired name e.evaluation.action.kind]
    match e.evaluation.action with
    | .sleep duration => ⟨.continue, e.registry, fired, [⟨.blocked, duration⟩], e.draws⟩
    | action => ⟨outcomeOf name action, e.registry, fired ++ eventsOf name action, [], e.draws⟩
  else ⟨.continue, e.registry, e.events, [], e.draws⟩

end Registry

end FaultInjection
