import FaultInjection.Toml.Value

/-!
# Numbers, truth values and dates of TOML

`readScalar?` reads a value that is written without quotes or brackets. Such a value is a run of
letters, digits and a few signs, except that a blank may stand between a date and a time.
-/

namespace FaultInjection.Toml

open Decimal

/-- A character of a value without quotes. -/
def isScalarChar (c : Char) : Bool :=
  isDigit c || ('a' ≤ c && c ≤ 'z') || ('A' ≤ c && c ≤ 'Z') || "+-._:".toList.contains c

/-- The digits of a row in which single underscores may stand between digits. -/
def digitRow? (isDigit : Char → Bool) : List Char → Option (List Char)
  | [] => none
  | [c] => if isDigit c then some [c] else none
  | c :: '_' :: rest => if isDigit c then (digitRow? isDigit rest).map (c :: ·) else none
  | c :: rest => if isDigit c then (digitRow? isDigit rest).map (c :: ·) else none

/-- The value of digits in a base. -/
def baseValue (base : Nat) (cs : List Char) : Nat :=
  cs.foldl (fun n c => base * n + (if isDigit c then digitValue c else c.toLower.toNat - 0x57)) 0

/-- A digit in a base of two, eight or sixteen. -/
def isBaseDigit (base : Nat) (c : Char) : Bool :=
  if base ≤ 8 then '0' ≤ c && c.toNat < 0x30 + base
  else isDigit c || ('a' ≤ c && c ≤ 'f') || ('A' ≤ c && c ≤ 'F')

/-- An integer of sixty-four bits. -/
def bounded? (negative : Bool) (n : Nat) : Option Value :=
  if negative then if n ≤ signedBound then some (.integer (-(n : Int))) else none
  else if n < signedBound then some (.integer n) else none

/-- A row of decimal digits that does not start with a needless zero. -/
def decimalRow? (cs : List Char) : Option (List Char) :=
  (digitRow? isDigit cs).filter fun ds => ds.length == 1 || ds.head? != some '0'

/-- The sign of a number and what follows it. -/
def splitSign : List Char → Bool × List Char
  | '-' :: cs => (true, cs)
  | '+' :: cs => (false, cs)
  | cs => (false, cs)

/-- Read an integer. -/
def integer? (cs : List Char) : Option Value :=
  let based := fun (base : Nat) (ds : List Char) =>
    (digitRow? (isBaseDigit base) ds).bind fun ds => bounded? false (baseValue base ds)
  match cs with
  | '0' :: 'x' :: ds => based 16 ds
  | '0' :: 'o' :: ds => based 8 ds
  | '0' :: 'b' :: ds => based 2 ds
  | cs =>
    let (negative, ds) := splitSign cs
    (decimalRow? ds).bind fun ds => bounded? negative (digitsValue ds)

/-- Read the power of ten of a float. -/
def power? (cs : List Char) : Option Int :=
  let (negative, ds) := splitSign cs
  (digitRow? isDigit ds).map fun ds => if negative then -(digitsValue ds : Int) else digitsValue ds

/-- Read a float: a whole part, and a fraction or a power of ten or both. -/
def float? (cs : List Char) : Option Value :=
  let (negative, ds) := splitSign cs
  if ds = "inf".toList then some (.float (.infinite negative))
  else if ds = "nan".toList then some (.float .notANumber)
  else
    let isPowerMark := fun c => c == 'e' || c == 'E'
    let mantissa := ds.takeWhile (! isPowerMark ·)
    let power : Option Int := match ds.dropWhile (! isPowerMark ·) with
      | [] => some 0
      | _ :: ps => power? ps
    let whole := decimalRow? (mantissa.takeWhile (· != '.'))
    let fraction : Option (List Char) := match mantissa.dropWhile (· != '.') with
      | [] => some []
      | _ :: fs => digitRow? isDigit fs
    if mantissa = ds ∧ '.' ∉ ds then none
    else match whole, fraction, power with
    | some whole, some fraction, some power =>
      let x : Numeral := ⟨negative, digitsValue (whole ++ fraction), power - fraction.length⟩
      x.toBinary64?.map fun x => .float (.finite x)
    | _, _, _ => none

/-- The days of a month. -/
def monthDays (year month : Nat) : Nat :=
  if month = 2 then
    if year % 4 = 0 ∧ (year % 100 ≠ 0 ∨ year % 400 = 0) then 29 else 28
  else if month = 4 ∨ month = 6 ∨ month = 9 ∨ month = 11 then 30 else 31

/-- So many digits, as a number. -/
def fixed? (cs : List Char) (width : Nat) : Option Nat :=
  if cs.length = width then natural? cs else none

/-- Whether a text is a date. -/
def isDate (cs : List Char) : Bool :=
  match fixed? (cs.take 4) 4, fixed? ((cs.drop 5).take 2) 2, fixed? (cs.drop 8) 2 with
  | some year, some month, some day =>
    cs[4]? == some '-' && cs[7]? == some '-' && 1 ≤ month && month ≤ 12
      && 1 ≤ day && day ≤ monthDays year month
  | _, _, _ => false

/-- A time as it is shown: of a fraction at most nine digits are kept, without zeros at the end, but
at least one. -/
def time? (cs : List Char) : Option (List Char) :=
  match fixed? (cs.take 2) 2, fixed? ((cs.drop 3).take 2) 2, cs[2]? with
  | some hour, some minute, some ':' =>
    if 23 < hour ∨ 59 < minute then none
    else
      match cs.drop 5 with
      | [] => some cs
      | ':' :: seconds =>
        match fixed? (seconds.take 2) 2, seconds.drop 2 with
        | some second, [] => if 60 < second then none else some cs
        | some second, '.' :: fraction =>
          if 60 < second ∨ (natural? fraction).isNone then none
          else
            let kept := ((fraction.take 9).reverse.dropWhile (· == '0')).reverse
            some (cs.take 8 ++ '.' :: (if kept.isEmpty then ['0'] else kept))
        | _, _ => none
      | _ => none
  | _, _, _ => none

/-- An offset from universal time as it is shown; none at all is shown with a plus sign. -/
def offset? (cs : List Char) : Option (List Char) :=
  match cs with
  | ['z'] | ['Z'] => some ['Z']
  | sign :: digits =>
    match fixed? (digits.take 2) 2, fixed? (digits.drop 3) 2 with
    | some hour, some minute =>
      if (sign = '+' ∨ sign = '-') ∧ digits[2]? = some ':' ∧ hour < 24 ∧ minute < 60 then
        some (if hour = 0 ∧ minute = 0 then '+' :: digits else cs)
      else none
    | _, _ => none
  | [] => none

/-- A time with an optional offset, as it is shown. -/
def timeOffset? (cs : List Char) : Option (List Char) :=
  let startsOffset := fun c => c == 'z' || c == 'Z' || c == '+' || c == '-'
  let time := time? (cs.takeWhile (! startsOffset ·))
  match cs.dropWhile (! startsOffset ·) with
  | [] => time
  | offset =>
    match time, offset? offset with
    | some time, some offset => some (time ++ offset)
    | _, _ => none

/-- Read a date, a time, or both with an optional offset. -/
def datetime? (cs : List Char) : Option Value :=
  let shown := fun (text : List Char) => Value.datetime (String.ofList text)
  if isDate (cs.take 10) then
    match cs.drop 10 with
    | [] => some (shown cs)
    | t :: rest =>
      if t = 'T' ∨ t = 't' ∨ t = ' ' then
        (timeOffset? rest).map fun time => shown (cs.take 10 ++ 'T' :: time)
      else none
  else (time? cs).map shown

/-- The characters of a value without quotes, and what follows it. -/
def scalarText (cs : List Char) : List Char × List Char :=
  let head := cs.takeWhile isScalarChar
  match cs.dropWhile isScalarChar with
  | ' ' :: rest =>
    if isDate head && (rest.head?.any isDigit) then
      (head ++ ' ' :: rest.takeWhile isScalarChar, rest.dropWhile isScalarChar)
    else (head, ' ' :: rest)
  | rest => (head, rest)

/-- Read a value without quotes or brackets. -/
def readScalar? (cs : List Char) : Option (Value × List Char) :=
  let (text, rest) := scalarText cs
  let value :=
    if text = "true".toList then some (Value.bool true)
    else if text = "false".toList then some (Value.bool false)
    else ((integer? text).orElse fun _ => float? text).orElse fun _ => datetime? text
  value.map fun v => (v, rest)

end FaultInjection.Toml
