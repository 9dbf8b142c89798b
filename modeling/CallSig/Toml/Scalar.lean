import CallSig.Decimal.Binary64
import CallSig.Toml.Datetime
import CallSig.Toml.Value

/-!
# Words that are values

Numbers, truth values, dates and times are words: a run of letters, digits and a
few marks that ends where no such character stands. A word is read as a whole or
not at all. The one exception is a date and a time with a space between them.

Digits may be grouped by single underscores. Integers take 64 bits. A number
whose nearest double is infinite is refused, unless it is negative: then it is
negative infinity.
-/

namespace CallSig.Toml

/-- Whether the character may stand in a word. -/
def isWordChar (c : Char) : Bool :=
  c.isAlphanum || c = '+' || c = '-' || c = '_' || c = '.' || c = ':'

/-! ## Digits -/

/-- Digits without the underscores between them; nothing unless each underscore
stands between two digits and there is at least one digit. -/
def ungroup? (test : Char → Bool) : List Char → Option (List Char)
  | [] => none
  | [c] => if test c then some [c] else none
  | c :: '_' :: rest => if test c then (ungroup? test rest).map (c :: ·) else none
  | c :: rest => if test c then (ungroup? test rest).map (c :: ·) else none

/-- Whether the character is a digit of the base. -/
def isDigitOf (base : Nat) (c : Char) : Bool :=
  (Text.hexValue? c).any (· < base)

/-- The sign of a word, if it has one, and the rest of it. -/
def takeSign : List Char → Bool × List Char
  | '-' :: rest => (true, rest)
  | '+' :: rest => (false, rest)
  | rest => (false, rest)

/-- The digits in front of the point: no zero stands in front of another digit. -/
def wholeDigits? (text : List Char) : Option (List Char) :=
  match ungroup? isDigit text with
  | some ('0' :: _ :: _) => none
  | digits => digits

/-! ## Integers -/

def integerMax : Int := Decimal.twoPow 63 - 1

def integerMin : Int := -(Decimal.twoPow 63 : Int)

/-- An integer in range. -/
def inRange? (n : Int) : Option Value :=
  if integerMin ≤ n && n ≤ integerMax then some (.integer n) else none

/-- An integer in a base that is not ten. -/
def based? (base : Nat) (digits : List Char) : Option Value := do
  inRange? (ofDigits base (← ungroup? (isDigitOf base) digits))

def decimalInteger? (word : List Char) : Option Value := do
  let (negative, digits) := takeSign word
  let n := ofDigits 10 (← wholeDigits? digits)
  inRange? (if negative then -(n : Int) else n)

/-! ## Floats -/

/-- The power of ten behind the `e` of a number; a number without one has the
power zero. -/
def exponent? : List Char → Option Int
  | [] => some 0
  | _ :: rest => do
    let (negative, digits) := takeSign rest
    let n := ofDigits 10 (← ungroup? isDigit digits)
    pure (if negative then -(n : Int) else n)

/-- The digits behind the point of a number; a number without a point has none. -/
def fraction? : List Char → Option (List Char)
  | [] => some []
  | _ :: digits => ungroup? isDigit digits

def isExponentMark (c : Char) : Bool :=
  c = 'e' || c = 'E'

/-- A decimal number with a point or an exponent. -/
def float? (word : List Char) : Option Value := do
  let (negative, unsigned) := takeSign word
  guard (unsigned.any fun c => c = '.' || isExponentMark c)
  let mantissa := unsigned.takeWhile (!isExponentMark ·)
  let whole ← wholeDigits? (mantissa.takeWhile (· != '.'))
  let fraction ← fraction? (mantissa.dropWhile (· != '.'))
  let power ← exponent? (unsigned.dropWhile (!isExponentMark ·))
  let digits := ofDigits 10 (whole ++ fraction)
  let exponent := power - fraction.length
  if Decimal.exceedsRange digits exponent then
    if negative then some (.float (-1.0 / 0.0)) else none
  else some (.float (Decimal.nearestFloat negative digits exponent))

/-- The doubles that are no numbers. -/
def specialFloat? (word : List Char) : Option Value :=
  let (negative, name) := takeSign word
  if name = ['i', 'n', 'f'] then some (.float (if negative then -1.0 / 0.0 else 1.0 / 0.0))
  else if name = ['n', 'a', 'n'] then some (.float (0.0 / 0.0))
  else none

/-! ## Words -/

/-- The value that a word is. -/
def ofWord? (word : List Char) : Option Value :=
  match word with
  | ['t', 'r', 'u', 'e'] => some (.bool true)
  | ['f', 'a', 'l', 's', 'e'] => some (.bool false)
  | '0' :: 'x' :: digits => based? 16 digits
  | '0' :: 'o' :: digits => based? 8 digits
  | '0' :: 'b' :: digits => based? 2 digits
  | word =>
    ((Datetime.ofWord? word).map Value.datetime).orElse fun _ =>
      (decimalInteger? word).orElse fun _ =>
        (specialFloat? word).orElse fun _ => float? word

/-- The value of a word that may go on, after a space, with a time. -/
def readWord (text : List Char) : Option (Value × List Char) :=
  let word := text.takeWhile isWordChar
  let rest := text.dropWhile isWordChar
  match Datetime.readDate? word, rest with
  | some (date, []), ' ' :: more =>
    match more.takeWhile isWordChar with
    | [] => some (.datetime (String.ofList date), rest)
    | second =>
      (Datetime.timeWithOffset? second).map fun time =>
        (.datetime (String.ofList (date ++ 'T' :: time)), more.dropWhile isWordChar)
  | _, _ => (ofWord? word).map fun value => (value, rest)

end CallSig.Toml
