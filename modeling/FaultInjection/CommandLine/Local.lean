import FaultInjection.CommandLine.Execution
import FaultInjection.Http.Control

/-!
# Commands on a registry at hand

A control plane in the same process can carry the requests of commands: its registry is the state, and
each request is answered as a server would answer it.
-/

namespace FaultInjection

/-- An answer as a reply. A handler that panicked gives none. -/
def Reply.ofAnswer? : Http.Answer → Option Reply
  | .response r => some ⟨r.status, r.body⟩
  | .panic _ => none

/-- Answer a call from a registry. No request to the control plane consults a draw. -/
def Call.answer (c : Call) : StateM Registry (Option Reply) := fun r =>
  let x := Http.control none r (.constant .zero) c.request
  (Reply.ofAnswer? x.answer, x.trail.registry)

/-- Carry out a command on a registry. -/
def Command.run (c : Command) (base : String) : StateM Registry (Except ExecutionError Reply) :=
  execute Call.answer base c

end FaultInjection
