/-!
# Powers of two and of ten

The bounds of machine numbers are powers of two, decimal places powers of ten.
-/

namespace CallSig.Decimal

def twoPow (n : Nat) : Nat :=
  Nat.pow 2 n

def tenPow (n : Nat) : Nat :=
  Nat.pow 10 n

end CallSig.Decimal
