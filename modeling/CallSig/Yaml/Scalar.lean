import CallSig.Decimal.Binary64
import CallSig.Text.Hex

/-!
# Which texts read as something else

A YAML reader takes an unquoted text for a null, a truth value or a number when
it is spelled like one. `isAmbiguous` finds these spellings, so that a writer can
quote them. Integers may be decimal, hexadecimal, octal or binary and take up to
128 bits; a text of digits that starts with an unneeded zero is a number to some
readers and is ambiguous as well. A decimal number too large for a double is no
number.
-/

namespace CallSig.Yaml

def isDigit (c : Char) : Bool :=
  '0' ≤ c && c ≤ '9'

def nullWords : List String :=
  ["null", "Null", "NULL", "~"]

def boolWords : List String :=
  ["true", "True", "TRUE", "false", "False", "FALSE"]

/-- The spellings of the doubles that are no numbers, without a sign. -/
def infinityWords : List String :=
  [".inf", ".Inf", ".INF"]

def nanWords : List String :=
  [".nan", ".NaN", ".NAN"]

/-! ## Integers -/

/-- The number that digits write in a base of up to sixteen; there has to be at
least one digit. -/
def readDigits? (base : Nat) (text : List Char) : Option Nat :=
  if text.isEmpty then none
  else
    text.foldlM (fun n c =>
      match Text.hexValue? c with
      | some value => if value < base then some (n * base + value) else none
      | none => none) 0

/-- The greatest integer that is read. -/
def integerMax : Nat :=
  Decimal.twoPow 128 - 1

/-- The greatest size of a negative integer that is read. -/
def integerMin : Nat :=
  Decimal.twoPow 127

/-- Whether the digits write an integer in range. -/
def fits (negative : Bool) (base : Nat) (digits : List Char) : Bool :=
  match readDigits? base digits with
  | some size => if negative then size ≤ integerMin else size ≤ integerMax
  | none => false

/-- Whether an unsigned text is an integer in one of the four bases. -/
def isUnsignedInteger (negative : Bool) (text : List Char) : Bool :=
  match text with
  | '0' :: 'x' :: digits => fits negative 16 digits
  | '0' :: 'o' :: digits => fits negative 8 digits
  | '0' :: 'b' :: digits => fits negative 2 digits
  | '0' :: _ :: _ => false
  | digits => fits negative 10 digits

/-- Whether the text is an integer, with or without a sign. -/
def isInteger (text : List Char) : Bool :=
  match text with
  | '-' :: rest => isUnsignedInteger true rest
  | '+' :: rest => isUnsignedInteger false rest
  | rest => isUnsignedInteger false rest

/-- A text without its sign. -/
def unsigned (text : List Char) : List Char :=
  match text with
  | '-' :: rest => rest
  | '+' :: rest => rest
  | rest => rest

/-- Whether the text is digits with an unneeded zero in front. -/
def hasLeadingZero (text : List Char) : Bool :=
  match unsigned text with
  | '0' :: c :: rest => (c :: rest).all isDigit
  | _ => false

/-! ## Decimal numbers -/

/-- The exponent that a text is, with or without a sign. -/
def readExponent? (text : List Char) : Option Int :=
  match text with
  | '-' :: digits => (readDigits? 10 digits).map fun n => -(n : Int)
  | '+' :: digits => (readDigits? 10 digits).map fun n => (n : Int)
  | digits => (readDigits? 10 digits).map fun n => (n : Int)

/-- The exponent after the digits of a number; a number may have none. -/
def exponentPart? : List Char → Option Int
  | [] => some 0
  | c :: rest => if c = 'e' || c = 'E' then readExponent? rest else none

/-- An unsigned decimal number as digits and a power of ten. There is a digit in
front of the point or behind it. -/
def readDecimal? (text : List Char) : Option (Nat × Int) := do
  let whole := text.takeWhile isDigit
  let afterWhole := text.dropWhile isDigit
  let fraction := match afterWhole with
    | '.' :: rest => rest.takeWhile isDigit
    | _ => []
  let afterFraction := match afterWhole with
    | '.' :: rest => rest.dropWhile isDigit
    | rest => rest
  let digits ← readDigits? 10 (whole ++ fraction)
  let exponent ← exponentPart? afterFraction
  pure (digits, exponent - fraction.length)

/-- Whether an unsigned text is a decimal number that a double can hold. -/
def isDecimal (text : List Char) : Bool :=
  match readDecimal? text with
  | some (digits, exponent) => !Decimal.exceedsRange digits exponent
  | none => false

/-- Whether the text is a double, one of the special ones included. -/
def isDouble (text : List Char) : Bool :=
  let bare := String.ofList (unsigned text)
  infinityWords.contains bare || nanWords.contains (String.ofList text) ||
    isDecimal (unsigned text)

/-- Whether an unquoted text would be read as something other than a text. -/
def isAmbiguous (text : List Char) : Bool :=
  text.isEmpty || (nullWords ++ boolWords).contains (String.ofList text) || isInteger text ||
    hasLeadingZero text || isDouble text

end CallSig.Yaml
