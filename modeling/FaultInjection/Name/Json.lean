import FaultInjection.Json.Parser
import FaultInjection.Json.Text
import FaultInjection.Name

/-!
# Names in JSON

A name is a string in JSON. Whatever text stands for that string is read as the name, and a string that is
no name is refused like a value that is no string.
-/

namespace FaultInjection.Name

/-- The name as JSON. -/
def json (n : Name) : String := String.ofList (Json.writeString n.text.toList)

/-- Read a name from a JSON text. -/
def parseJson? (text : String) : Option Name :=
  match Json.parse? text with
  | some (.string s) => (ofString s).toOption
  | _ => none

end FaultInjection.Name
