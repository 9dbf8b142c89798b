/-!
# Hexadecimal numerals

Escapes write a code point in base sixteen, either with the fewest digits or
padded with zeros to a fixed width. Both take the digit alphabet as an argument,
since some formats want lower case and others upper case.
-/

namespace CallSig.Text

/-- The digit of a value below sixteen, in lower case. -/
def lowerHexDigit (value : Nat) : Char :=
  if value < 10 then Char.ofNat (48 + value) else Char.ofNat (87 + value)

/-- The digit of a value below sixteen, in upper case. -/
def upperHexDigit (value : Nat) : Char :=
  if value < 10 then Char.ofNat (48 + value) else Char.ofNat (55 + value)

/-- The last `width` digits of a number, the most significant first. -/
def hexPadded (digit : Nat → Char) : Nat → Nat → List Char
  | 0, _ => []
  | width + 1, n => hexPadded digit width (n / 16) ++ [digit (n % 16)]

/-- The number of digits that a number needs; zero needs one. -/
def hexWidth (n : Nat) : Nat :=
  if n < 16 then 1 else hexWidth (n / 16) + 1

/-- All digits of a number and no leading zero. -/
def hexShortest (digit : Nat → Char) (n : Nat) : List Char :=
  hexPadded digit (hexWidth n) n

/-- The value of a hexadecimal digit of either case. -/
def hexValue? (c : Char) : Option Nat :=
  if '0' ≤ c ∧ c ≤ '9' then some (c.toNat - 48)
  else if 'a' ≤ c ∧ c ≤ 'f' then some (c.toNat - 87)
  else if 'A' ≤ c ∧ c ≤ 'F' then some (c.toNat - 55)
  else none

theorem length_hexPadded (digit : Nat → Char) (width n : Nat) :
    (hexPadded digit width n).length = width := by
  induction width generalizing n with
  | zero => rfl
  | succ width ih => simp [hexPadded, ih]

end CallSig.Text
