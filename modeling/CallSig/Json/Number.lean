import CallSig.Decimal.Layout

/-!
# Numbers in JSON texts

A whole number is an integer as long as it fits into 64 bits, with or without a
sign, and a double beyond that; `-0` is a double as well, since no integer is
negative zero. A double is computed the fast way: the digits that fit into an
unsigned 64-bit significand are taken, the rest of them only count as places, and
one multiplication or division by a power of ten follows. The last bit may
therefore differ from the double nearest to the text.
-/

namespace CallSig.Json

/-- The value of a number text. -/
inductive Number where
  | integer (value : Int)
  | double (value : Float)

/-- Doubles in messages: positional from `0.00001` up to below `10^16`, always
with a point or an exponent, and with a sign in front of the exponent. -/
def Number.layout : Decimal.Layout :=
  ⟨some (-5, 15), true, .even, true⟩

/-- The greatest significand. -/
def significandLimit : Nat :=
  Decimal.twoPow 64 - 1

def digitValue (c : Char) : Nat :=
  c.toNat - 48

/-- Takes digits onto a significand as long as it stays within the limit; the
second component holds the digits that are left over. -/
def takeDigits (significand : Nat) : List Char → Nat × List Char
  | [] => (significand, [])
  | c :: rest =>
    let next := significand * 10 + digitValue c
    if next ≤ significandLimit then takeDigits next rest else (significand, c :: rest)

/-- Divides by a power of ten that may be larger than the greatest one that a
double holds. -/
def divideByPower (x : Float) (power : Nat) : Float :=
  if power ≤ 308 then x / Float.ofScientific 1 false power
  else if x == 0.0 then x
  else divideByPower (x / 1e308) (power - 308)
termination_by power

/-- The double `significand * 10 ^ exponent`, unless it is out of range. -/
def scale? (significand : Nat) (exponent : Int) : Option Float :=
  let x := significand.toUInt64.toFloat
  if exponent < 0 then some (divideByPower x (-exponent).toNat)
  else if exponent ≤ 308 then
    let scaled := x * Float.ofScientific 1 false exponent.toNat
    if scaled.isInf then none else some scaled
  else if significand = 0 then some x
  else none

/-- The value of a number text given by its sign, the digits in front of the
point, the digits behind it and its exponent; nothing when it is out of range. -/
def Number.ofParts? (negative : Bool) (whole : List Char) (fraction : Option (List Char))
    (exponent : Option Int) : Option Number :=
  let (head, surplus) := takeDigits 0 whole
  let signed (x : Float) : Float := if negative then -x else x
  let double (significand : Nat) (places : Int) : Option Number :=
    (scale? significand (places + exponent.getD 0)).map fun x => .double (signed x)
  match fraction with
  | some digits =>
    let (significand, unread) := takeDigits head digits
    double significand ((surplus.length : Int) - (digits.length - unread.length : Nat))
  | none =>
    if exponent.isSome || !surplus.isEmpty then double head surplus.length
    else if !negative then some (.integer head)
    else if head = 0 || Decimal.twoPow 63 < head then some (.double (signed head.toUInt64.toFloat))
    else some (.integer (-(head : Int)))

/-- The number as messages show it. -/
def Number.describe : Number → String
  | .integer value => "integer `" ++ toString value ++ "`"
  | .double value => "floating point `" ++ Number.layout.render value ++ "`"

end CallSig.Json
