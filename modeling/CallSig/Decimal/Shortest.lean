import CallSig.Decimal.Binary64

/-!
# The fewest digits that read back

A double stands for every real number that rounds to it. `shortest` finds the
decimal with the fewest digits in that interval, and of several such decimals
the one nearest to the double; a `Tie` says where an exact tie goes. Only the two neighbours
of the double on a decimal grid have to be tried: if a point of the grid lies in
the interval, so does one of these two.

The search is in natural numbers. A `Span` holds the double and the two ends of
its interval over one denominator.
-/

namespace CallSig.Decimal

/-- Where a number goes that lies halfway between two neighbours. -/
inductive Tie where
  | up
  | even
  deriving Repr, DecidableEq

/-- Whether a tie above `down` goes up. -/
def Tie.goesUp (tie : Tie) (down : Nat) : Bool :=
  match tie with
  | .up => true
  | .even => down % 2 = 1

/-- A decimal number `digits * 10 ^ exponent`. -/
structure Numeral where
  digits : Nat
  exponent : Int
  deriving Repr, DecidableEq

/-- A positive number between the ends of an interval, all over one
denominator. -/
structure Span where
  low : Nat
  value : Nat
  high : Nat
  denominator : Nat
  /-- Whether the ends belong to the interval. -/
  closed : Bool
  deriving Repr, DecidableEq

/-- The interval of a double in quarters of its last place. Below a power of two
the doubles are closer together. -/
def Span.ofBinary (significand : Nat) (exponent : Int) : Span :=
  let below := if significand = twoPow 52 && -1074 < exponent then 1 else 2
  let scale := twoPow (exponent - 2).toNat
  { low := (4 * significand - below) * scale
    value := 4 * significand * scale
    high := (4 * significand + 2) * scale
    denominator := twoPow (2 - exponent).toNat
    closed := significand % 2 = 0 }

/-- The span divided by a power of ten. -/
def Span.shift (span : Span) (power : Int) : Span :=
  let scale := tenPow (-power).toNat
  { span with
    low := span.low * scale
    value := span.value * scale
    high := span.high * scale
    denominator := span.denominator * tenPow power.toNat }

/-- Whether a whole number lies in the interval. -/
def Span.holds (span : Span) (n : Nat) : Bool :=
  let point := n * span.denominator
  if span.closed then span.low ≤ point && point ≤ span.high
  else span.low < point && point < span.high

/-- The whole number in the interval that is nearest to the value. -/
def Span.nearest? (span : Span) (tie : Tie) : Option Nat :=
  let down := span.value / span.denominator
  let rest := span.value % span.denominator
  match span.holds down, span.holds (down + 1) with
  | true, true =>
    if 2 * rest < span.denominator then some down
    else if span.denominator < 2 * rest then some (down + 1)
    else if tie.goesUp down then some (down + 1)
    else some down
  | true, false => some down
  | false, true => some (down + 1)
  | false, false => none

/-- The power of ten of the first digit of the value. -/
def Span.leadingPower (span : Span) : Int :=
  if span.denominator ≤ span.value then
    (digitCount (span.value / span.denominator) : Int) - 1
  else -(digitCount (span.denominator / span.value) : Int)

/-- A decimal without zeros at the end; `fuel` bounds their number. -/
def Numeral.strip : Nat → Numeral → Numeral
  | 0, d => d
  | fuel + 1, d =>
    if d.digits % 10 = 0 && d.digits != 0 then
      Numeral.strip fuel ⟨d.digits / 10, d.exponent + 1⟩
    else d

/-- The decimal of fewest digits that reads back as `significand * 2 ^ exponent`.
Seventeen digits always do. -/
def shortest (tie : Tie) (significand : Nat) (exponent : Int) : Numeral :=
  let span := Span.ofBinary significand exponent
  let top := span.leadingPower
  let attempt (count : Nat) : Option Numeral :=
    let power := top - count
    ((span.shift power).nearest? tie).map fun digits => ⟨digits, power⟩
  match (List.range 18).findSome? attempt with
  | some found => found.strip 20
  | none => ⟨0, 0⟩

end CallSig.Decimal
