import FaultInjection.Toml.Value

/-!
# Tables of a TOML document

A document defines its tables bit by bit: by headers, by headers of their sub-tables, and by keys
with points. A table may be defined only once, so an `Item` remembers how its table came about.
`within` finds the place that a header names, and the last element of an array of tables stands for
the array. All changes fail when they would define something twice.
-/

namespace FaultInjection.Toml

/-- How a table came about. -/
inductive Origin where
  /-- By the header of one of its sub-tables. -/
  | implied
  /-- By its own header. -/
  | header
  /-- By a key with points, or by one that goes through a table which so far was only implied. -/
  | dotted
  deriving DecidableEq, Repr

/-- What a key stands for while a document is read. The latest table of an array comes first. -/
inductive Item where
  | value (v : Value)
  | table (origin : Origin) (items : List (String × Item))
  | tables (elements : List (List (String × Item)))

/-- The items of a table. -/
abbrev Items := List (String × Item)

namespace Items

/-- Replace the item under a key that is there. -/
def replace (items : Items) (key : String) (item : Item) : Items :=
  items.map fun (k, old) => if k == key then (k, item) else (k, old)

/-- Change the table that a path of headers leads to. -/
def within (change : Items → Option Items) : List String → Items → Option Items
  | [], items => change items
  | key :: keys, items =>
    match items.lookup key with
    | none => (within change keys []).map fun inner => items ++ [(key, .table .implied inner)]
    | some (.table origin inner) =>
      (within change keys inner).map fun inner => replace items key (.table origin inner)
    | some (.tables (latest :: earlier)) =>
      (within change keys latest).map fun latest => replace items key (.tables (latest :: earlier))
    | some (.tables []) => none
    | some (.value _) => none

/-- Define a table by its header. -/
def defineTable (key : String) (items : Items) : Option Items :=
  match items.lookup key with
  | none => some (items ++ [(key, .table .header [])])
  | some (.table .implied inner) => some (replace items key (.table .header inner))
  | _ => none

/-- Add a table to an array of tables. -/
def defineElement (key : String) (items : Items) : Option Items :=
  match items.lookup key with
  | none => some (items ++ [(key, .tables [[]])])
  | some (.tables elements) => some (replace items key (.tables ([] :: elements)))
  | _ => none

/-- Put a value under a key with points. The key may go on through the last table of an array, but not
end in it. -/
def put (v : Value) : List String → Items → Option Items
  | [], _ => none
  | [key], items => if (items.lookup key).isSome then none else some (items ++ [(key, .value v)])
  | key :: keys, items =>
    match items.lookup key with
    | none => (put v keys []).map fun inner => items ++ [(key, .table .dotted inner)]
    | some (.table .header _) => none
    | some (.table _ inner) =>
      (put v keys inner).map fun inner => replace items key (.table .dotted inner)
    | some (.tables (latest :: earlier)) =>
      if keys.length < 2 then none
      else (put v keys latest).map fun latest => replace items key (.tables (latest :: earlier))
    | _ => none

/-- Open the table that a header names. -/
def openTable (path : List String) (items : Items) : Option Items :=
  match path.getLast? with
  | none => none
  | some key => within (defineTable key) path.dropLast items

/-- Open a further table of the array that a header names. -/
def openElement (path : List String) (items : Items) : Option Items :=
  match path.getLast? with
  | none => none
  | some key => within (defineElement key) path.dropLast items

end Items

mutual

/-- The value of an item. -/
def Item.toValue : Item → Value
  | .value v => v
  | .table _ items => .table (fieldValues items)
  | .tables elements => .array (elementValues elements).reverse

/-- The fields of a table. -/
def fieldValues : List (String × Item) → List (String × Value)
  | [] => []
  | (key, item) :: items => (key, item.toValue) :: fieldValues items

/-- The tables of an array, in the order in which they are kept. -/
def elementValues : List (List (String × Item)) → List Value
  | [] => []
  | items :: elements => .table (fieldValues items) :: elementValues elements

end

end FaultInjection.Toml
