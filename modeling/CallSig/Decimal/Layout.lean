import CallSig.Decimal.Shortest

/-!
# Layouts of a number text

A `Layout` says how the digits of a double are written: for which powers of ten
of the first digit positional notation is used, whether a whole number carries
`.0`, where a tie between two shortest texts goes, and whether a positive
exponent carries its sign. Outside the positional powers the text has one digit
in front of the point and an exponent without padding.
-/

namespace CallSig.Decimal

/-- How the digits of a double are written. -/
structure Layout where
  /-- The powers of ten of the first digit, from and to, that are written
  positionally; nothing stands for all. -/
  positional : Option (Int × Int)
  /-- Whether a whole number in positional notation ends in `.0`. -/
  pointZero : Bool
  tie : Tie
  /-- Whether a positive exponent has a plus sign. -/
  plusSign : Bool
  deriving Repr, DecidableEq

/-- The digits with a point after the first `whole` of them; zeros fill the
places that the digits do not reach. -/
def positionalText (digits : List Char) (whole : Int) (pointZero : Bool) : List Char :=
  let tail := if pointZero then ['.', '0'] else []
  if whole ≤ 0 then ['0', '.'] ++ List.replicate (-whole).toNat '0' ++ digits
  else if digits.length ≤ whole.toNat then
    digits ++ List.replicate (whole.toNat - digits.length) '0' ++ tail
  else digits.take whole.toNat ++ '.' :: digits.drop whole.toNat

/-- The digits with a point after the first and the exponent behind. -/
def exponentText (digits : List Char) (power : Int) (plusSign : Bool) : List Char :=
  let fraction := digits.drop 1
  digits.take 1 ++ (if fraction.isEmpty then [] else '.' :: fraction) ++
    'e' :: (if plusSign && 0 ≤ power then ['+'] else []) ++ (toString power).toList

/-- A decimal in the layout. -/
def Layout.renderDecimal (layout : Layout) (d : Numeral) : List Char :=
  let digits := (toString d.digits).toList
  let power := d.exponent + digits.length - 1
  let positional := match layout.positional with
    | none => true
    | some (low, high) => low ≤ power && power ≤ high
  if positional then positionalText digits (power + 1) layout.pointZero
  else exponentText digits power layout.plusSign

/-- A double in the layout. -/
def Layout.render (layout : Layout) (x : Float) : String :=
  let signed (negative : Bool) (text : List Char) : String :=
    String.ofList (if negative then '-' :: text else text)
  match Binary64.ofFloat x with
  | .nan => "NaN"
  | .infinite negative => signed negative ['i', 'n', 'f']
  | .finite negative significand exponent =>
    if significand = 0 then
      signed negative ('0' :: if layout.pointZero then ['.', '0'] else [])
    else signed negative (layout.renderDecimal (shortest layout.tie significand exponent))

end CallSig.Decimal
