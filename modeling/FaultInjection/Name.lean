import FaultInjection.Text.Blank
import FaultInjection.Text.Quoted

/-!
# Names of failpoints

A name has from 1 to 256 characters, is not the word reserved for bulk requests, and holds neither
a blank nor one of the characters that addresses and bulk texts use as delimiters.
`Name.faults` lists what is wrong with a text, and a `Name` is a text with no fault.
-/

namespace FaultInjection

open Text

/-- What is wrong with a text as a name. -/
inductive NameFault where
  | length
  | reserved
  | delimiter
  deriving DecidableEq, Repr

/-- The code under which a fault is reported. -/
def NameFault.code : NameFault → String
  | length => "length"
  | reserved => "reserved"
  | delimiter => "delimiter"

namespace Name

/-- The word that addresses bulk requests. -/
def reservedWord : String := "failpoints"

/-- Characters that addresses and bulk texts give a meaning. -/
def isDelimiter (c : Char) : Bool := c == '/' || c == '=' || c == ';' || isBlank c

/-- The fault in the length, if any. -/
def lengthFaults (s : String) : List NameFault :=
  if 1 ≤ s.toList.length ∧ s.toList.length ≤ 256 then [] else [.length]

/-- The fault in the characters, if any. -/
def characterFaults (s : String) : List NameFault :=
  if s = reservedWord then [.reserved]
  else if s.toList.any isDelimiter then [.delimiter] else []

/-- Everything wrong with a text as a name. -/
def faults (s : String) : List NameFault := lengthFaults s ++ characterFaults s

end Name

/-- A text that may name a failpoint. -/
structure Name where
  text : String
  faults_eq_nil : Name.faults text = []
  deriving DecidableEq

namespace Name

instance : ToString Name := ⟨text⟩

/-- The name with this text, or everything that is wrong with it. -/
def ofString (s : String) : Except (List NameFault) Name :=
  if h : faults s = [] then .ok ⟨s, h⟩ else .error (faults s)

/-- One fault with the parameters of the rule that was broken. -/
def describeFault (s : String) (f : NameFault) : String :=
  let value := "\"value\": String(" ++ quotedText s ++ ")"
  match f with
  | .length => "Validation error: length [\x7b\"max\": Number(256), \"min\": Number(1), " ++ value ++ "\x7d]"
  | f => "Validation error: " ++ f.code ++ " [\x7b" ++ value ++ "\x7d]"

/-- The faults of a text in one line. -/
def describe (s : String) (fs : List NameFault) : String :=
  "value: " ++ ", ".intercalate (fs.map (describeFault s))

end Name

end FaultInjection
