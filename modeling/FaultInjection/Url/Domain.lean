import FaultInjection.Url.Label
import FaultInjection.Url.Punycode
import FaultInjection.Url.Scheme

/-!
# Domain names

A domain name is compared in a folded form: every character is replaced by what it stands for, and the
text is composed. `toAscii?` folds a name and writes every label beyond ASCII behind `xn--`. A name in
ASCII that no label marks as encoded only changes to lower case.
-/

namespace FaultInjection.Url.Domain

open Text

/-- A character that no domain name has: the controls, the space, and what an address uses as a
delimiter. -/
def isForbidden (c : Char) : Bool :=
  c.toNat ≤ 0x20 || c.toNat == 0x7F || "%#/:<>?@[\\]^|".toList.contains c

/-- What stands before an encoded label. -/
def encodedMark : List Char := "xn--".toList

/-- The number of characters that may stand behind the mark of an encoded label. -/
def maxEncodedLength : Nat := 2000

/-- A name with every character replaced by what it stands for. -/
def folded (cs : List Char) : List Char :=
  if cs.all Punycode.isAscii then cs.map Scheme.lowered else composed (cs.flatMap fold)

/-- Whether a label goes beyond ASCII and is valid. -/
def isEncodable (label : List Char) : Bool :=
  label.any (! Punycode.isAscii ·) && Label.isValid label && !label.any isForbidden

/-- The label that a folded label denotes: one that is marked as encoded is read, and has to denote a
label that needs it. -/
def labelText? (label : List Char) : Option (List Char) :=
  if encodedMark.isPrefixOf label then
    let encoded := label.drop encodedMark.length
    if label.all Punycode.isAscii ∧ encoded.length ≤ maxEncodedLength then
      (Punycode.decode? encoded).filter isEncodable
    else none
  else if label.all Punycode.isAscii || isEncodable label then some label else none

/-- A label in ASCII. -/
def labelAscii (label : List Char) : List Char :=
  if label.all Punycode.isAscii then label else encodedMark ++ Punycode.encode label

/-- A domain name in ASCII. -/
def toAscii? (cs : List Char) : Option (List Char) :=
  let name := folded cs
  if name.any isForbidden then none
  else
    let labels := name.splitOn '.'
    match labels.mapM labelText? with
    | none => none
    | some texts =>
      if Label.directionsFit texts then some (['.'].intercalate (labels.map labelAscii)) else none

end FaultInjection.Url.Domain
