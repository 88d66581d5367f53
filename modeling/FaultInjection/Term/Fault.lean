import FaultInjection.Duration

/-!
# Why a text is no term

Each way in which a text fails to be a term is a constructor, with the part of the text that is at
fault. `TermFault.reason` is the wording.
-/

namespace FaultInjection

/-- Why a text is no term. -/
inductive TermFault where
  | emptyTerm
  | emptySegment
  | unterminatedString
  | invalidPercentage (text : String)
  | percentageOutOfRange (text : String)
  | invalidCount (text : String)
  | textAfterAction (text : String)
  | argumentOfOff
  | missingDuration
  | invalidDuration (fault : DurationFault)
  | missingAction (text : String)
  | unknownAction (name : String)
  | malformedLiteral (text : String)
  | notAString (text : String)
  | textAfterString (text : String)
  | unknownEscape (c : Char)
  deriving DecidableEq, Repr

/-- A text between grave accents. -/
def ticked (s : String) : String := "\x60" ++ s ++ "\x60"

namespace TermFault

/-- The wording of a fault. -/
def reason : TermFault → String
  | emptyTerm => "empty term"
  | emptySegment => "empty segment"
  | unterminatedString => "unterminated string literal"
  | invalidPercentage text => "invalid percentage " ++ ticked text
  | percentageOutOfRange text => "percentage " ++ ticked text ++ " must be in (0, 100]"
  | invalidCount text => "count " ++ ticked text ++ " must be a positive integer"
  | textAfterAction text => "unexpected " ++ ticked text ++ " after action"
  | argumentOfOff => ticked "off" ++ " takes no argument"
  | missingDuration => ticked "sleep" ++ " requires a duration"
  | invalidDuration fault => "Invalid duration: " ++ fault.detail
  | missingAction text => "missing action in " ++ ticked text
  | unknownAction name => "unknown action " ++ ticked name
  | malformedLiteral text => "malformed literal " ++ ticked text
  | notAString text => "expected string literal, got " ++ ticked text
  | textAfterString text => "unexpected " ++ ticked text ++ " after string literal"
  | unknownEscape c => "unknown escape " ++ ticked (String.ofList ['\\', c])

end TermFault

end FaultInjection
