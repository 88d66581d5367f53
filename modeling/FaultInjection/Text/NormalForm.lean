import FaultInjection.Text.CombiningClass
import FaultInjection.Text.Composite

/-!
# Composed normal form

The same text can be written with composites or with their parts, and with marks in different orders.
`composed` brings all of these to one form: composites are taken apart, the marks behind a character are
put in the order of their classes, and whatever has a composite then is composed. A mark is kept from the
character before it by another one of the same class or a greater one between them.
-/

namespace FaultInjection.Text

/-- How often a part of a composite can be a composite again. -/
def compositeDepth : Nat := 3

/-- A character as parts that are no composites; `depth` bounds how often it is taken apart. -/
def decomposed : Nat → Char → List Char
  | 0, c => [c]
  | depth + 1, c =>
    match parts? c with
    | some (a, b) => decomposed depth a ++ [b]
    | none => [c]

/-- A character with its combining class. -/
abbrev Classed := Nat × Char

/-- A character with its class. -/
def classed (c : Char) : Classed := (combiningClass c, c)

/-- Put a character before others, behind the marks among them that have a lower class. -/
def insertMark (c : Classed) : List Classed → List Classed
  | [] => [c]
  | d :: ds => if 0 < d.1 ∧ d.1 < c.1 then d :: insertMark c ds else c :: d :: ds

/-- Compose a character with what follows it. The marks `between`, the last of them of class `last`, have
stayed behind it. -/
def composeFrom (starter : Char) (between : List Char) (last : Nat) : List Classed → List Char
  | [] => starter :: between
  | (k, c) :: rest =>
    match if between.isEmpty || last < k then composite? starter c else none with
    | some whole => composeFrom whole between last rest
    | none =>
      if k = 0 then starter :: between ++ composeFrom c [] 0 rest
      else composeFrom starter (between ++ [c]) k rest

/-- The composed form of a text. -/
def composed (cs : List Char) : List Char :=
  let parts := ((cs.flatMap (decomposed compositeDepth)).map classed).foldr insertMark []
  let isMark := fun (c : Classed) => 0 < c.1
  (parts.takeWhile isMark).map (·.2) ++
    match parts.dropWhile isMark with
    | [] => []
    | (_, c) :: rest => composeFrom c [] 0 rest

end FaultInjection.Text
