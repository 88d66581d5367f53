/-!
# Log events

Operations log what they do as events with a level, a message and named fields.
-/

namespace FaultInjection

/-- How serious an event is. -/
inductive Level where
  | error
  | warn
  | info
  | debug
  deriving DecidableEq, Repr

/-- One entry of the log. -/
structure Event where
  level : Level
  message : String
  fields : List (String × String)
  deriving DecidableEq, Repr

namespace Event

/-- A term was installed. -/
def enabled (name spec : String) : Event :=
  ⟨.info, "Failpoint enabled", [("name", name), ("term", spec)]⟩

/-- A failpoint was disabled. -/
def disabled (name : String) : Event := ⟨.info, "Failpoint disabled", [("name", name)]⟩

/-- A text was refused as a term. -/
def rejected (name spec error : String) : Event :=
  ⟨.debug, "Rejected failpoint term", [("name", name), ("spec", spec), ("error", error)]⟩

/-- A name that nobody registered was hit. -/
def unregistered (name : String) : Event :=
  ⟨.warn, "Hit on unregistered failpoint", [("failpoint", name)]⟩

/-- A failpoint fired with an action of some kind. -/
def fired (name kind : String) : Event :=
  ⟨.debug, "Failpoint fired", [("failpoint", name), ("action", kind)]⟩

/-- The message that a failpoint was told to print. -/
def printed (name message : String) : Event := ⟨.info, message, [("failpoint", name)]⟩

/-- The configured terms are about to be installed. -/
def activating (text : String) : Event :=
  ⟨.info, "Activating failpoints from configuration", [("failpoints", text)]⟩

/-- Not every configured term could be installed. -/
def activationFailed (error : String) : Event :=
  ⟨.warn, "Some configured failpoints could not be activated", [("error", error)]⟩

end Event

end FaultInjection
