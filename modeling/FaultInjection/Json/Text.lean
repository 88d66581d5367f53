/-!
# Strings in JSON

A JSON string stands between double quotes. The quote, the backslash and the control characters
are escaped, five of the latter by a letter and the others by four hexadecimal digits; every other
character stands for itself.
-/

namespace FaultInjection.Json

/-- A lower-case hexadecimal digit. -/
def lowerHex (n : Nat) : Char := Char.ofNat (if n < 10 then 0x30 + n else 0x61 + (n - 10))

/-- One character as it is written in a JSON string. -/
def escapedChar (c : Char) : List Char :=
  match c with
  | '"' => ['\\', '"']
  | '\\' => ['\\', '\\']
  | '\x08' => ['\\', 'b']
  | '\x0c' => ['\\', 'f']
  | '\n' => ['\\', 'n']
  | '\r' => ['\\', 'r']
  | '\t' => ['\\', 't']
  | c =>
    if c.toNat < 0x20 then ['\\', 'u', '0', '0', lowerHex (c.toNat / 16), lowerHex (c.toNat % 16)]
    else [c]

/-- A text as a JSON string. -/
def writeString (cs : List Char) : List Char := '"' :: cs.flatMap escapedChar ++ ['"']

end FaultInjection.Json
