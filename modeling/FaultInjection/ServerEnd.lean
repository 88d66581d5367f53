import FaultInjection.Event

/-!
# How a server ends

A server ends by itself or with an error, of its own or of the task that runs it. It ends cleanly
when it stops without an error after it was asked to.
-/

namespace FaultInjection

/-- How a server ended. -/
inductive ServerEnd where
  | stopped
  | failed (error : String)
  | aborted (error : String)
  deriving DecidableEq, Repr

namespace ServerEnd

/-- Whether a server ended cleanly, and the event that tells; `unexpected` means that nobody had asked
it to stop. -/
def report (server : String) (e : ServerEnd) (unexpected : Bool) : Bool × Event :=
  match e, unexpected with
  | stopped, true => (false, ⟨.error, server ++ " stopped unexpectedly", []⟩)
  | stopped, false => (true, ⟨.info, server ++ " stopped", []⟩)
  | failed error, _ => (false, ⟨.error, server ++ " failed: " ++ error, []⟩)
  | aborted error, _ => (false, ⟨.error, server ++ " task failed: " ++ error, []⟩)

end ServerEnd

end FaultInjection
