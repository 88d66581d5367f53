import FaultInjection.Assignment
import FaultInjection.Event
import FaultInjection.Failpoint

/-!
# The registry

A registry holds one failpoint for each registered name, in the order of the names. The names are
fixed when it is built; every operation changes the failpoint that it names and no other.

An operation that can fail gives a `Change`: the registry after it, the events it logged, and the
error if there was one.
-/

namespace FaultInjection

/-- All failpoints, in ascending order of their names. -/
structure Registry where
  failpoints : List Failpoint
  deriving DecidableEq

/-- A registry after an operation, what the operation logged, and whether it succeeded. -/
structure Change where
  registry : Registry
  events : List Event
  result : Except RegistryError Unit

namespace Registry

/-- Put a disabled failpoint in its place among those already registered. -/
def insertName (n : Name) : List Failpoint → List Failpoint
  | [] => [Failpoint.disabled n]
  | f :: fs =>
    if n.text < f.name.text then Failpoint.disabled n :: f :: fs else f :: insertName n fs

/-- Whether a name is registered. -/
def contains (r : Registry) (name : String) : Bool := r.failpoints.any (·.name.text == name)

/-- Register one more text. -/
def register (r : Registry) (text : String) : Except RegistryError Registry :=
  match Name.ofString text with
  | .error fs => .error (.registration (Name.inputError text fs))
  | .ok n =>
    if r.contains n.text then .error (.duplicateName n.text)
    else .ok ⟨insertName n r.failpoints⟩

/-- Build a registry of disabled failpoints, or fail for the first text that cannot be registered. -/
def ofNames (texts : List String) : Except RegistryError Registry := texts.foldlM register ⟨[]⟩

/-- The registered names, in ascending order. -/
def names (r : Registry) : List String := r.failpoints.map (·.name.text)

/-- The failpoint with a name. -/
def find? (r : Registry) (name : String) : Option Failpoint :=
  r.failpoints.find? (·.name.text == name)

/-- The failpoint with a name, or the error that there is none. -/
def lookup (r : Registry) (name : String) : Except RegistryError Failpoint :=
  match r.find? name with
  | none => .error .notFound
  | some f => .ok f

/-- Change the failpoint with a name. -/
def modify (r : Registry) (name : String) (change : Failpoint → Failpoint) : Registry :=
  ⟨r.failpoints.map fun f => if f.name.text == name then change f else f⟩

/-- The failpoint with a name, at this moment. -/
def get (r : Registry) (name : String) : Except RegistryError Snapshot :=
  (r.lookup name).map Failpoint.snapshot

/-- The text of the term installed under a name. -/
def term (r : Registry) (name : String) : Except RegistryError String :=
  (r.lookup name).bind Failpoint.term

/-- The hits on a name since its term was installed. -/
def count (r : Registry) (name : String) : Except RegistryError Nat :=
  (r.lookup name).bind Failpoint.count

/-- Every name with the text of its term, empty for a disabled failpoint. -/
def list (r : Registry) : List (String × String) :=
  r.failpoints.map fun f => (f.name.text, f.termText)

/-- Install the term that a text denotes. The name is looked up before the text is read. -/
def set (r : Registry) (name spec : String) : Change :=
  match r.lookup name with
  | .error e => ⟨r, [], .error e⟩
  | .ok _ =>
    match Term.parse spec with
    | .error fault =>
      let cause := fault.toInputError
      ⟨r, [Event.rejected name spec cause.message], .error (.parse cause)⟩
    | .ok t => ⟨r.modify name (·.install t), [Event.enabled name spec], .ok ()⟩

/-- Remove the term under a name. -/
def deactivate (r : Registry) (name : String) : Change :=
  match r.lookup name with
  | .error e => ⟨r, [], .error e⟩
  | .ok _ => ⟨r.modify name Failpoint.clear, [Event.disabled name], .ok ()⟩

/-- Apply one entry of a bulk text. -/
def applyEntry (r : Registry) : Except RegistryError Assignment → Change
  | .error e => ⟨r, [], .error e⟩
  | .ok a => r.set a.name a.spec

/-- The first of two errors. -/
def firstError (first second : Except RegistryError Unit) : Except RegistryError Unit :=
  match first with
  | .error e => .error e
  | .ok () => second

/-- Apply every entry in turn, whatever becomes of the others; the first error is the result. -/
def applyEntries (r : Registry) : List (Except RegistryError Assignment) → Change
  | [] => ⟨r, [], .ok ()⟩
  | entry :: entries =>
    let head := r.applyEntry entry
    let tail := head.registry.applyEntries entries
    ⟨tail.registry, head.events ++ tail.events, firstError head.result tail.result⟩

/-- Install several terms, each by itself. -/
def setMany (r : Registry) (assignments : List Assignment) : Change :=
  r.applyEntries (assignments.map .ok)

/-- Install what a bulk text assigns. -/
def assign (r : Registry) (body : String) : Change := r.applyEntries (Assignment.parseMany body)

/-- Install what the configuration assigns, unless it is blank. -/
def activate (r : Registry) (body : String) : Change :=
  if Text.isBlankText body then ⟨r, [], .ok ()⟩
  else
    let change := r.assign body
    let closing := match change.result with
      | .error e => [Event.activationFailed e.message]
      | .ok () => []
    { change with events := Event.activating body :: change.events ++ closing }

/-- Record a hit on a name: the selected action, the registry after it, and the draws left. -/
def hit (r : Registry) (name : String) (d : Draws) : Except RegistryError Action × Registry × Draws :=
  match r.find? name with
  | none => (.error .notFound, r, d)
  | some f =>
    let (action, after, d) := f.hit d
    (action, r.modify name fun _ => after, d)

end Registry

end FaultInjection
