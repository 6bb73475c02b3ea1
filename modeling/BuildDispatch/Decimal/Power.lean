/-!
Powers of the two bases of decimal and binary numbers.
-/

namespace BuildDispatch.Decimal

/-- The power of ten with a natural exponent. -/
def tenTo (n : Nat) : Nat := Nat.pow 10 n

/-- The power of two with a natural exponent. -/
def twoTo (n : Nat) : Nat := Nat.pow 2 n

end BuildDispatch.Decimal
