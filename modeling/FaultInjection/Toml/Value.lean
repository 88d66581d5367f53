import FaultInjection.Decimal.Extended

/-!
# TOML values

The values of a TOML document. A date or time is kept as the text in which it is shown.
-/

namespace FaultInjection.Toml

/-- A TOML value. -/
inductive Value where
  | string (s : String)
  | integer (n : Int)
  | float (x : Decimal.Extended)
  | bool (b : Bool)
  | datetime (text : String)
  | array (elements : List Value)
  | table (fields : List (String × Value))

end FaultInjection.Toml
