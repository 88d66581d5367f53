/-!
# Bounds of integers

Integers are kept as exact numbers; where a value has to fit into sixty-four or a hundred and
twenty-eight bits, it is compared with one of these bounds.
-/

namespace FaultInjection.Decimal

/-- The least number that does not fit into sixty-four bits. -/
def wordBound : Nat := 18446744073709551616

/-- The least number that does not fit into sixty-four bits with a sign. -/
def signedBound : Nat := 9223372036854775808

/-- The least number that does not fit into a hundred and twenty-eight bits. -/
def wideBound : Nat := 340282366920938463463374607431768211456

theorem signedBound_eq : signedBound = Nat.pow 2 63 := rfl

end FaultInjection.Decimal
