import FaultInjection.Duration
import FaultInjection.Literal

/-!
# Terms

A term says what a failpoint does each time it is hit. It is a chain of segments, each an action
that may be gated by a percentage and limited by a count. A term keeps the text that it was read
from, and shows as that text, never in a normalised form.
-/

namespace FaultInjection

open Decimal

/-- What an instrumented call does on a hit. -/
inductive Action where
  /-- Carry on. -/
  | off
  /-- Return early, with a value if there is one. -/
  | ret (value : Option Literal)
  /-- Pause, then carry on. -/
  | sleep (pause : Duration)
  /-- Fail, with a message if there is one. -/
  | panic (message : Option String)
  /-- Log a message, then carry on. -/
  | print (message : Option String)
  deriving DecidableEq

namespace Action

/-- Whether the instrumented call is left alone. -/
def isOff : Action → Bool
  | off => true
  | _ => false

/-- The word that starts the action in a term. -/
def kind : Action → String
  | off => "off"
  | ret _ => "return"
  | sleep _ => "sleep"
  | panic _ => "panic"
  | print _ => "print"

end Action

/-- An action with the percentage of hits on which it fires and the number of firings after which
the next segment takes over. -/
structure Segment where
  percentage : Option Binary64
  count : Option Nat
  action : Action
  deriving DecidableEq

/-- A chain of segments and the text it was read from. -/
structure Term where
  source : String
  segments : List Segment
  deriving DecidableEq

namespace Term

/-- Whether the term is the bare action `off`. -/
def isOff (t : Term) : Bool :=
  match t.segments with
  | [⟨none, none, .off⟩] => true
  | _ => false

/-- The text of a term. -/
def display (t : Term) : String := t.source

end Term

end FaultInjection
