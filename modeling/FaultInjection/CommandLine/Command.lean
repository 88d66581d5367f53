/-!
# Commands

A command is a word and its arguments. `CommandWord` holds what the command line knows of a word, and
`Command.ofWord?` joins it with as many arguments as it takes.
-/

namespace FaultInjection

/-- The words that commands begin with. -/
inductive CommandWord where
  | list
  | get
  | count
  | set
  | setMany
  | deactivate
  deriving DecidableEq, Repr

namespace CommandWord

/-- Every word. -/
def all : List CommandWord := [list, get, count, set, setMany, deactivate]

/-- How a word is written. -/
def text : CommandWord → String
  | list => "list"
  | get => "get"
  | count => "count"
  | set => "set"
  | setMany => "set-many"
  | deactivate => "deactivate"

/-- The number of arguments that a word takes. -/
def arity : CommandWord → Nat
  | list => 0
  | get | count | setMany | deactivate => 1
  | set => 2

/-- The word that a text writes. -/
def named? (s : String) : Option CommandWord := all.find? (·.text == s)

end CommandWord

/-- What the command line can ask of a control plane. -/
inductive Command where
  | list
  | get (name : String)
  | count (name : String)
  | set (name spec : String)
  | setMany (assignments : String)
  | deactivate (name : String)
  deriving DecidableEq, Repr

/-- The command of a word and its arguments. -/
def Command.ofWord? : CommandWord → List String → Option Command
  | .list, [] => some list
  | .get, [name] => some (get name)
  | .count, [name] => some (count name)
  | .set, [name, spec] => some (set name spec)
  | .setMany, [assignments] => some (setMany assignments)
  | .deactivate, [name] => some (deactivate name)
  | _, _ => none

end FaultInjection
