import FaultInjection.Text.Visible

/-!
# Text quoted for display

Error messages and displayed literals show a text between double quotes. The quote, the backslash
and four control characters have short escapes; every other character without a visible form is
written as its code point in lower-case hexadecimal between braces, and all that remain stand for
themselves.
-/

namespace FaultInjection.Text

/-- A number in lower-case hexadecimal, without padding. -/
def hexDigits (n : Nat) : List Char := Nat.toDigits 16 n

/-- One character as it is written between quotes. -/
def quotedChar (c : Char) : List Char :=
  match c with
  | '\x00' => ['\\', '0']
  | '\t' => ['\\', 't']
  | '\r' => ['\\', 'r']
  | '\n' => ['\\', 'n']
  | '\\' => ['\\', '\\']
  | '"' => ['\\', '"']
  | c => if isVisible c then [c] else ['\\', 'u', '{'] ++ hexDigits c.toNat ++ ['}']

/-- A text between double quotes. -/
def quoted (cs : List Char) : List Char := '"' :: cs.flatMap quotedChar ++ ['"']

/-- `quoted` on strings. -/
def quotedText (s : String) : String := String.ofList (quoted s.toList)

end FaultInjection.Text
