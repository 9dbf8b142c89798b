import CallSig.Decimal.Power

/-!
# Doubles taken apart, and decimals beyond their range

`Binary64.ofFloat` reads the fields of a double: a finite one is a significand
times a power of two. `exceedsRange` says of a decimal `digits * 10 ^ exponent`
whether the double nearest to it is infinite; it is decided on integers, and a
huge exponent costs nothing.
-/

namespace CallSig.Decimal

/-- What the bits of a double say. -/
inductive Binary64 where
  | nan
  | infinite (negative : Bool)
  /-- The number `significand * 2 ^ exponent`, up to its sign. -/
  | finite (negative : Bool) (significand : Nat) (exponent : Int)
  deriving Repr, DecidableEq

/-- The double with these fields of its encoding. -/
def Binary64.ofFields (negative : Bool) (biased fraction : Nat) : Binary64 :=
  if biased = 2047 then
    if fraction = 0 then .infinite negative else .nan
  else if biased = 0 then .finite negative fraction (-1074)
  else .finite negative (fraction + twoPow 52) ((biased : Int) - 1075)

def Binary64.ofFloat (x : Float) : Binary64 :=
  let bits := x.toBits.toNat
  .ofFields (bits / twoPow 63 = 1) (bits / twoPow 52 % twoPow 11) (bits % twoPow 52)

/-- The least number that rounds to infinity: half a unit above the greatest
double. -/
def rangeEnd : Nat :=
  twoPow 1024 - twoPow 970

/-- The number of decimal digits of a number; zero has none. -/
def digitCount (n : Nat) : Nat :=
  if n = 0 then 0 else digitCount (n / 10) + 1

/-- Whether `digits * 10 ^ exponent` rounds to infinity. -/
def exceedsRange (digits : Nat) (exponent : Int) : Bool :=
  if digits = 0 then false
  else if (digitCount digits : Int) + exponent ≤ 308 then false
  else if 310 ≤ (digitCount digits : Int) + exponent then true
  else if 0 ≤ exponent then rangeEnd ≤ digits * tenPow exponent.toNat
  else rangeEnd * tenPow (-exponent).toNat ≤ digits

/-- The double nearest to `digits * 10 ^ exponent`, when that number is in
range; numbers too small for a double are zero. -/
def nearestFloat (negative : Bool) (digits : Nat) (exponent : Int) : Float :=
  let size :=
    if digits = 0 || (digitCount digits : Int) + exponent < -400 then 0.0
    else if 0 ≤ exponent then Float.ofScientific digits false exponent.toNat
    else Float.ofScientific digits true (-exponent).toNat
  if negative then -size else size

end CallSig.Decimal
