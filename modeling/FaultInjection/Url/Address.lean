import FaultInjection.Decimal.Numeral
import FaultInjection.Text.Percent

/-!
# Numeric hosts

An IPv4 address is a number of thirty-two bits, read from one to four parts of which the last one fills
what the others leave. An IPv6 address is eight groups of sixteen bits, of which one run of zeros may be
written as `::` and the last two as an IPv4 address; it is written with the first of its longest runs
shortened.
-/

namespace FaultInjection.Url

open Text

/-- The number that digits of a radix denote; no digits are zero. -/
def radix? (radix : Nat) (cs : List Char) : Option Nat :=
  cs.foldlM (fun n c => ((Percent.hexValue? c).filter (· < radix)).map (radix * n + ·)) 0

/-- Several texts with a character between them. -/
def joined (separator : Char) (parts : List (List Char)) : List Char := [separator].intercalate parts

namespace Ipv4

/-- The number that one part denotes: hexadecimal behind `0x`, octal behind another zero, and
otherwise decimal. -/
def part? : List Char → Option Nat
  | [] => none
  | '0' :: 'x' :: ds | '0' :: 'X' :: ds => radix? 16 ds
  | '0' :: d :: ds => radix? 8 (d :: ds)
  | ds => radix? 10 ds

/-- The parts of a host; a final full stop counts for nothing. -/
def parts (cs : List Char) : List (List Char) :=
  let parts := cs.splitOn '.'
  if parts.getLast? = some [] then parts.dropLast else parts

/-- Whether a host can only be an IPv4 address, as its last part is a number. -/
def isMeant (cs : List Char) : Bool :=
  match (parts cs).getLast? with
  | some last => (Decimal.natural? last).isSome || (part? last).isSome
  | none => false

/-- The address that a host denotes. -/
def parse? (cs : List Char) : Option Nat :=
  match (parts cs).mapM part? with
  | none => none
  | some numbers =>
    let leading := numbers.dropLast
    let room := Nat.pow 256 (4 - leading.length)
    match numbers.getLast? with
    | none => none
    | some last =>
      if numbers.length ≤ 4 ∧ leading.all (· ≤ 255) ∧ last < room then
        some (leading.foldl (fun n b => 256 * n + b) 0 * room + last)
      else none

/-- An address as four bytes. -/
def text (address : Nat) : List Char :=
  joined '.' ([0x1000000, 0x10000, 0x100, 1].map fun unit => Decimal.naturalDigits (address / unit % 256))

end Ipv4

namespace Ipv6

/-- One group: from one to four hexadecimal digits. -/
def group? (cs : List Char) : Option Nat :=
  if 1 ≤ cs.length ∧ cs.length ≤ 4 then radix? 16 cs else none

/-- A byte in decimal digits, without a leading zero. -/
def byte? (cs : List Char) : Option Nat :=
  match cs with
  | '0' :: _ :: _ => none
  | cs => (Decimal.natural? cs).filter (· ≤ 255)

/-- Four bytes as two groups. -/
def embedded? (cs : List Char) : Option (List Nat) :=
  match (cs.splitOn '.').mapM byte? with
  | some [a, b, c, d] => some [256 * a + b, 256 * c + d]
  | _ => none

/-- Groups from their texts; with `final`, the last may be four bytes. -/
def readGroups? (final : Bool) : List (List Char) → Option (List Nat)
  | [] => some []
  | [last] =>
    match group? last with
    | some n => some [n]
    | none => if final then embedded? last else none
  | cs :: rest => do return (← group? cs) :: (← readGroups? final rest)

/-- The groups of a text with a colon between them; an empty text has none. -/
def groups? (final : Bool) (cs : List Char) : Option (List Nat) :=
  if cs.isEmpty then some [] else readGroups? final (cs.splitOn ':')

/-- The texts before and after the first `::`. -/
def cutGap? : List Char → Option (List Char × List Char)
  | ':' :: ':' :: rest => some ([], rest)
  | c :: rest => (cutGap? rest).map fun (before, after) => (c :: before, after)
  | [] => none

/-- The address that the text between brackets denotes. -/
def parse? (cs : List Char) : Option (List Nat) :=
  match cutGap? cs with
  | none => (groups? true cs).filter (·.length = 8)
  | some (before, after) => do
    let before ← groups? false before
    let after ← groups? true after
    let known := before.length + after.length
    if known < 8 then return before ++ List.replicate (8 - known) 0 ++ after else none

/-- The length of the run of zeros at a place. -/
def zerosAt (groups : List Nat) (i : Nat) : Nat := ((groups.drop i).takeWhile (· == 0)).length

/-- The place and the length of the first of the longest runs of zeros. -/
def longestZeros (groups : List Nat) : Nat × Nat :=
  (List.range groups.length).foldl (fun best i =>
    if best.2 < zerosAt groups i then (i, zerosAt groups i) else best) (0, 0)

/-- An address as text, without brackets. -/
def text (groups : List Nat) : List Char :=
  let write := fun (gs : List Nat) => joined ':' (gs.map (Nat.toDigits 16))
  let (place, length) := longestZeros groups
  if length < 2 then write groups
  else write (groups.take place) ++ [':', ':'] ++ write (groups.drop (place + length))

end Ipv6

end FaultInjection.Url
