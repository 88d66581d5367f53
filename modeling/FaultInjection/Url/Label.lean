import FaultInjection.Text.CombiningClass
import FaultInjection.Text.Direction
import FaultInjection.Text.Joining
import FaultInjection.Text.Mark
import FaultInjection.Text.NormalForm
import FaultInjection.Url.DomainMapping

/-!
# Labels of domain names

The rules for a label with characters beyond ASCII. It consists of characters that stand for themselves,
in composed form, and does not begin with a mark. A joiner, which has no shape of its own, stands only
where it matters. Where a label is written from right to left, all labels of the name keep to one
direction each.
-/

namespace FaultInjection.Url.Label

open Text

/-- The number of characters that a label beyond ASCII may have. -/
def maxLength : Nat := 1000

/-- The joiner that keeps letters apart. -/
def nonJoiner : Char := '\u200C'

/-- The joiner that connects letters. -/
def joiner : Char := '\u200D'

/-- Whether the first character of a text that is not passed over joins in one of two ways. -/
def meets (side : Joining) (cs : List Char) : Bool :=
  match (cs.map joining).dropWhile (· == .transparent) with
  | j :: _ => j == side || j == .dual
  | [] => false

/-- Whether every joiner stands behind a mark that silences a vowel, or keeps apart two letters that would
join; `before` holds the characters before the text, the nearest first. -/
def joinersFit (before : List Char) : List Char → Bool
  | [] => true
  | c :: cs =>
    (if c == nonJoiner || c == joiner then
      before.head?.any (combiningClass · == viramaClass)
        || (c == nonJoiner && meets .left before && meets .right cs)
    else true) && joinersFit (c :: before) cs

/-- Whether a text can be a label beyond ASCII, as far as that does not depend on other labels. -/
def isValid (label : List Char) : Bool :=
  label.all Domain.isPlain && composed label == label && label.length ≤ maxLength
    && !label.head?.any isMark && joinersFit [] label

/-- Whether a direction asks for the direction rule. -/
def needsRule (d : Direction) : Bool := d == .rightToLeft || d == .arabicLetter || d == .arabicNumber

/-- The classes that may stand in a label of either direction. -/
def neutralClasses : List Direction :=
  [.europeanNumber, .europeanSeparator, .commonSeparator, .europeanTerminator, .otherNeutral,
   .boundaryNeutral, .nonspacingMark]

/-- Whether the classes of a label behind its first character fit a label from left to right; `lastFirst`
holds them from the end on, without the marks there. -/
def fitsLeftToRight (lastFirst : List Direction) : Bool :=
  match lastFirst with
  | [] => true
  | d :: ds =>
    (d == .leftToRight || d == .europeanNumber)
      && ds.all fun d => d == .leftToRight || neutralClasses.contains d

/-- Whether the classes of a label behind its first character fit a label from right to left. Numbers of
both kinds do not stand in one label. -/
def fitsRightToLeft (lastFirst : List Direction) : Bool :=
  match lastFirst with
  | [] => true
  | d :: ds =>
    (needsRule d || d == .europeanNumber)
      && (ds.all fun d => needsRule d || neutralClasses.contains d)
      && !(lastFirst.contains .europeanNumber && lastFirst.contains .arabicNumber)

/-- Whether a label keeps to one direction. -/
def keepsDirection (label : List Char) : Bool :=
  match label.map direction with
  | [] => true
  | d :: ds =>
    let lastFirst := ds.reverse.dropWhile (· == .nonspacingMark)
    match d with
    | .leftToRight => fitsLeftToRight lastFirst
    | .rightToLeft | .arabicLetter => fitsRightToLeft lastFirst
    | _ => false

/-- Whether a character asks for the direction rule. None in ASCII does. -/
def isDirected (c : Char) : Bool := 0x80 ≤ c.toNat && needsRule (direction c)

/-- Whether the labels of a name keep to their directions, if any of them needs that. -/
def directionsFit (labels : List (List Char)) : Bool :=
  !(labels.any fun label => label.any isDirected) || labels.all keepsDirection

end FaultInjection.Url.Label
