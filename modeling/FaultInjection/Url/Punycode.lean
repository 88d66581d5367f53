/-!
# Punycode

A label with characters beyond ASCII is written as its ASCII characters, a hyphen, and the other
characters in ascending order, each as the distance from the one before. A distance is written in
digits of base 36, the least first; how far a digit may go before it is the last one depends on its
place and on a bias that follows the sizes of the distances so far.
-/

namespace FaultInjection.Url.Punycode

/-- The number of digits. -/
def base : Nat := 36

/-- The digit for a number below the base: letters, then decimal digits. -/
def digit (n : Nat) : Char := Char.ofNat (if n < 26 then 0x61 + n else 0x30 + (n - 26))

/-- The number that a lower-case digit stands for. -/
def digitValue? (c : Char) : Option Nat :=
  if 'a' ≤ c ∧ c ≤ 'z' then some (c.toNat - 0x61)
  else if '0' ≤ c ∧ c ≤ '9' then some (c.toNat - 0x30 + 26) else none

/-- The least number that a digit which is not the last one carries at a place. -/
def threshold (bias place : Nat) : Nat := max 1 (min 26 (place - bias))

theorem one_le_threshold (bias place : Nat) : 1 ≤ threshold bias place := Nat.le_max_left ..

/-- The digits of a distance. -/
def distanceDigits (bias place n : Nat) : List Char :=
  let t := threshold bias place
  if n < t then [digit n]
  else digit (t + (n - t) % (base - t)) :: distanceDigits bias (place + base) ((n - t) / (base - t))
termination_by n
decreasing_by
  have low := one_le_threshold bias place
  have step := Nat.div_le_self (n - threshold bias place) (base - threshold bias place)
  omega

/-- The bias for the digits after a distance that was brought near its mean. -/
def settledBias (offset distance : Nat) : Nat :=
  if 455 < distance then settledBias (offset + base) (distance / 35)
  else offset + base * distance / (distance + 38)
termination_by distance
decreasing_by exact Nat.div_lt_self (by omega) (by omega)

/-- The bias after a distance, when so many characters have been placed. The first distance of a label
is usually much greater than the others, and is damped. -/
def nextBias (first : Bool) (placed distance : Nat) : Nat :=
  let scaled := if first then distance / 700 else distance / 2
  settledBias 0 (scaled + scaled / placed)

/-- The bias before the first distance. -/
def firstBias : Nat := 72

/-- The first code point beyond ASCII. -/
def firstCode : Nat := 0x80

/-- What has been written of a label: the digits, the distance that has grown since the last one, the
number of characters placed, and whether a distance has been written. -/
structure Encoder where
  digits : List Char
  distance : Nat
  bias : Nat
  placed : Nat
  first : Bool

namespace Encoder

/-- Pass one character of the label while those with the code point `code` are written. -/
def pass (code : Nat) (e : Encoder) (c : Char) : Encoder :=
  if c.toNat < code then { e with distance := e.distance + 1 }
  else if c.toNat = code then
    ⟨e.digits ++ distanceDigits e.bias base e.distance, 0, nextBias e.first (e.placed + 1) e.distance,
      e.placed + 1, false⟩
  else e

/-- Write every character of a label that has the code point `code`, when all below `least` are
written. -/
def write (label : List Char) (least code : Nat) (e : Encoder) : Encoder :=
  let e := label.foldl (pass code) { e with distance := e.distance + (code - least) * (e.placed + 1) }
  { e with distance := e.distance + 1 }

/-- Write the characters with the code points of an ascending list. -/
def writeAll (label : List Char) (least : Nat) (e : Encoder) : List Nat → Encoder
  | [] => e
  | code :: codes => writeAll label (code + 1) (write label least code e) codes

end Encoder

/-- Whether a character is ASCII. -/
def isAscii (c : Char) : Bool := c.toNat < firstCode

/-- The code points beyond ASCII of a label, ascending and each once. -/
def codes (label : List Char) : List Nat :=
  (((label.filter (! isAscii ·)).map (·.toNat)).mergeSort (· ≤ ·)).eraseReps

/-- A label in ASCII. -/
def encode (label : List Char) : List Char :=
  let ascii := label.filter isAscii
  let e := Encoder.writeAll label firstCode ⟨[], 0, firstBias, ascii.length, true⟩ (codes label)
  ascii ++ (if ascii.isEmpty then [] else ['-']) ++ e.digits

/-- What has been read of a label: the characters, the code point and the position of the last one
placed, and the number that is being read with the weight and the place of its next digit. -/
structure Decoder where
  label : List Char
  code : Nat
  bias : Nat
  start : Nat
  number : Nat
  weight : Nat
  place : Nat

namespace Decoder

/-- The character with a code point, if there is one. -/
def char? (n : Nat) : Option Char :=
  if n < 0xD800 ∨ (0xDFFF < n ∧ n < 0x110000) then some (Char.ofNat n) else none

/-- Place the character that a whole number denotes. -/
def insert? (d : Decoder) (number : Nat) : Option Decoder :=
  let size := d.label.length + 1
  let code := d.code + number / size
  let position := number % size
  (char? code).map fun c =>
    ⟨d.label.take position ++ c :: d.label.drop position, code,
      nextBias (d.start == 0) size (number - d.start), position + 1, position + 1, 1, base⟩

/-- One more than the greatest number that is read. -/
def numberBound : Nat := 4294967296

/-- Read one digit. -/
def step (d : Decoder) (c : Char) : Option Decoder :=
  match digitValue? c with
  | none => none
  | some v =>
    let number := d.number + v * d.weight
    let t := threshold d.bias d.place
    let weight := d.weight * (base - t)
    if numberBound ≤ number then none
    else if v < t then d.insert? number
    else if numberBound ≤ weight then none
    else some { d with number, weight, place := d.place + base }

end Decoder

/-- Cut a label at its last hyphen. Without one, or with nothing before it, all of it is digits. -/
def cut (label : List Char) : List Char × List Char :=
  let digits := (label.reverse.takeWhile (· != '-')).reverse
  match label.take (label.length - digits.length - 1) with
  | [] => ([], label)
  | ascii => (ascii, digits)

/-- The label that an ASCII text denotes. -/
def decode? (text : List Char) : Option (List Char) :=
  let (ascii, digits) := cut text
  match digits.foldlM Decoder.step ⟨ascii, firstCode, firstBias, 0, 0, 1, base⟩ with
  | some d => if d.place = base then some d.label else none
  | none => none

end FaultInjection.Url.Punycode
