import FaultInjection.Text.Percent
import FaultInjection.Url.Encoding
import FaultInjection.Url.Scheme

/-!
# Paths of addresses

A path is a list of segments, each written behind a slash; no segments are an empty path. Dot segments
are resolved as they are read: one dot stays where it is, two dots go up. The letter of a drive is never
left by going up. Tabs and line ends in a text are ignored, except that one of them behind the letter of
a drive ends the segment.
-/

namespace FaultInjection.Url

open Text

/-- A segment, percent-encoded. -/
abbrev Segment := List Char

namespace Segment

/-- The spellings of a dot. -/
def dots : List Segment := [".".toList, "%2e".toList, "%2E".toList]

/-- Whether a segment stays in its place. -/
def isSingleDot (s : Segment) : Bool := dots.contains s

/-- Whether a segment goes up. -/
def isDoubleDot (s : Segment) : Bool := dots.any fun a => dots.any fun b => s == a ++ b

/-- Whether a segment is the letter of a drive. -/
def isDrive : Segment → Bool
  | [c, mark] => Scheme.isLetter c && (mark == ':' || mark == '|')
  | _ => false

/-- Whether a segment is not left by going up: it is the letter of a drive, which a backslash may end. -/
def isKept : Segment → Bool
  | c :: mark :: rest => isDrive [c, mark] && (rest.isEmpty || rest.head? == some '\\')
  | _ => false

/-- The letter of a drive is written with a colon. -/
def drive : Segment → Segment
  | [c, _] => [c, ':']
  | s => s

/-- Cut a text at an ignored character behind the letter of a drive that more text follows. -/
def cutDrive? (raw : List Char) : Option (List Char × List Char) :=
  let mark := raw.dropWhile (· != ':')
  let letter := significant (raw.takeWhile (· != ':'))
  match letter, mark with
  | [c], _ :: i :: rest =>
    if Scheme.isLetter c && isIgnored i && !(significant rest).isEmpty then some ([c, ':'], significant rest)
    else none
  | _, _ => none

end Segment

/-- A path as its segments. -/
abbrev Path := List Segment

namespace Path

/-- A path as text. -/
def text (p : Path) : List Char := p.flatMap ('/' :: ·)

/-- The path above. -/
def up (p : Path) : Path := if p.getLast?.any Segment.isKept then p else p.dropLast

/-- Take in one more segment. With `last`, no slash follows it, and a dot segment leaves an empty segment
behind. -/
def extend (last : Bool) (p : Path) (s : Segment) : Path :=
  let closing := if last then [[]] else []
  if s.isDoubleDot then p.up ++ closing else if s.isSingleDot then p ++ closing else p ++ [s]

/-- Leave out empty segments before others. -/
def dropLeadingEmpty : Path → Path
  | [] :: s :: rest => dropLeadingEmpty (s :: rest)
  | p => p

/-- The path of a file has no empty segments before others. -/
def normal (kind : SchemeKind) (p : Path) : Path := if kind = .file then p.dropLeadingEmpty else p

/-- A path while it is read. The letter of a drive at the start of the path of a file takes the place of
the host. -/
structure Progress where
  path : Path
  onDrive : Bool
  deriving DecidableEq, Repr

namespace Progress

/-- Take in one more text as a segment, percent-encoded by `escape`. -/
def extend (kind : SchemeKind) (escape : Char → Bool) (last : Bool) (r : Progress) (raw : List Char) :
    Progress :=
  let s : Segment := Percent.encode escape (significant raw)
  if kind = .file ∧ r.path.isEmpty then
    match Segment.cutDrive? raw with
    | some (drive, rest) => { r with path := [drive, Percent.encode escape rest] }
    | none => if s.isDrive then ⟨[s.drive], true⟩ else { r with path := r.path.extend last s }
  else { r with path := r.path.extend last s }

/-- Take in texts as segments. -/
def extendAll (kind : SchemeKind) (r : Progress) : List (List Char) → Progress
  | [] => r
  | [raw] => r.extend kind Encoding.path true raw
  | raw :: rest => extendAll kind (r.extend kind Encoding.path false raw) rest

end Progress

/-- Read a path whose first segment has no separator before it. -/
def read (kind : SchemeKind) (cs : List Char) : Progress :=
  let r := Progress.extendAll kind ⟨[], false⟩ (cs.splitOnP kind.isSeparator)
  { r with path := normal kind r.path }

/-- Read a path behind its first separator, if it has one. A special scheme always has a path. -/
def parse (kind : SchemeKind) (cs : List Char) : Progress :=
  match cs with
  | [] => if kind.isSpecial then read kind [] else ⟨[], false⟩
  | c :: rest => read kind (if kind.isSeparator c then rest else c :: rest)

/-- Leave out a last segment that is empty, unless it is the only one. -/
def dropFinalEmpty (p : Path) : Path := if 1 < p.length ∧ p.getLast? = some [] then p.dropLast else p

/-- Add a text as one segment behind a path. Dots alone add nothing. -/
def push (kind : SchemeKind) (p : Path) (s : List Char) : Path :=
  if s = ".".toList ∨ s = "..".toList then p
  else
    let escape := if kind.isSpecial then Encoding.specialSegment else Encoding.segment
    let before : Path := if p = [[]] then [] else p
    normal kind (Progress.extend kind escape true ⟨before, false⟩ s).path

end Path

end FaultInjection.Url
