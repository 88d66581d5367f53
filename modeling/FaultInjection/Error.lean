import FaultInjection.Name
import FaultInjection.Term.Fault

/-!
# Errors

An `InputError` refuses a text: it is no term, no duration or no name. A `RegistryError` is the
outcome of an operation on a registry that did not succeed. Their `message` functions hold the
wording, on which clients of the control plane rely.
-/

namespace FaultInjection

open Text

/-- A text that was refused, with the reason. -/
inductive InputError where
  | term (reason : String)
  | duration (detail : String)
  | name (text reason : String)
  deriving DecidableEq, Repr

namespace InputError

/-- The wording of a refusal. -/
def message : InputError → String
  | term reason => "Invalid term: " ++ reason
  | duration detail => "Invalid duration: " ++ detail
  | name text reason => "Invalid failpoint name " ++ quotedText text ++ ": " ++ reason

end InputError

/-- The refusal of a text as a term. -/
def TermFault.toInputError (f : TermFault) : InputError := .term f.reason

/-- The refusal of a text as a duration. -/
def DurationFault.toInputError (f : DurationFault) : InputError := .duration f.detail

/-- The refusal of a text as a name. -/
def Name.inputError (s : String) (fs : List NameFault) : InputError := .name s (Name.describe s fs)

/-- Why an operation on a registry did not succeed. -/
inductive RegistryError where
  /-- No failpoint has the name. -/
  | notFound
  /-- The failpoint has no term. -/
  | disabled
  /-- The text is no term. -/
  | parse (cause : InputError)
  /-- An entry of a bulk text has no equals sign. -/
  | malformedAssignment (entry : String)
  /-- A text to be registered is no name. -/
  | registration (cause : InputError)
  /-- A name was to be registered twice. -/
  | duplicateName (name : String)
  deriving DecidableEq, Repr

namespace RegistryError

/-- The wording of an error. -/
def message : RegistryError → String
  | notFound => "failpoint: failpoint does not exist"
  | disabled => "failpoint: failpoint is disabled"
  | parse _ => "failpoint: could not parse terms"
  | malformedAssignment entry => "failpoint: malformed assignment " ++ quotedText entry
  | registration cause => "failpoint: invalid registration: " ++ cause.message
  | duplicateName name => "failpoint: duplicate registration of " ++ quotedText name

/-- Whether the name is unknown. -/
def isNotFound : RegistryError → Bool
  | notFound => true
  | _ => false

/-- Whether the text of a client is at fault. -/
def isBadInput : RegistryError → Bool
  | parse _ | malformedAssignment _ => true
  | _ => false

end RegistryError

end FaultInjection
