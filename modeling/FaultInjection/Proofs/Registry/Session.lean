import FaultInjection.Proofs.Registry.Basic

/-!
# Sessions

A session is a registry with the supply of draws that its hits share. `Session.run` makes calls on it
one after another, in any order and with any arguments. No call changes the names (`names_run`).
-/

namespace FaultInjection

/-- A call on a registry. -/
inductive Operation where
  | set (name spec : String)
  | setMany (assignments : List Assignment)
  | assign (body : String)
  | deactivate (name : String)
  | hit (name : String)
  | get (name : String)
  | term (name : String)
  | count (name : String)
  | list

/-- A registry and the draws that are left to its hits. -/
structure Session where
  registry : Registry
  draws : Draws

namespace Session

/-- The session after a call; the calls that only ask leave it as it is. -/
def after (σ : Session) : Operation → Session
  | .set name spec => { σ with registry := (σ.registry.set name spec).registry }
  | .setMany assignments => { σ with registry := (σ.registry.setMany assignments).registry }
  | .assign body => { σ with registry := (σ.registry.assign body).registry }
  | .deactivate name => { σ with registry := (σ.registry.deactivate name).registry }
  | .hit name => ⟨(σ.registry.hit name σ.draws).2.1, (σ.registry.hit name σ.draws).2.2⟩
  | .get _ | .term _ | .count _ | .list => σ

/-- The session after several calls. -/
def run (σ : Session) (calls : List Operation) : Session := calls.foldl after σ

theorem names_after (σ : Session) (c : Operation) : (σ.after c).registry.names = σ.registry.names := by
  cases c with
  | set name spec => exact Registry.names_set _ _ _
  | setMany assignments => exact Registry.names_applyEntries _ _
  | assign body => exact Registry.names_applyEntries _ _
  | deactivate name => exact Registry.names_deactivate _ _
  | hit name => exact Registry.names_hit _ _ _
  | _ => rfl

theorem names_run (σ : Session) (calls : List Operation) :
    (σ.run calls).registry.names = σ.registry.names := by
  induction calls generalizing σ with
  | nil => rfl
  | cons c calls ih => exact (ih (σ.after c)).trans (names_after σ c)

end Session

end FaultInjection
