import Mathlib.Tactic.IntervalCases
import CallSig.Text.Hex

/-!
# Hexadecimal digits, read again

Every digit, of either alphabet, has the value that it was written for.
-/

namespace CallSig.Text

theorem hexValue?_lowerHexDigit {value : Nat} (small : value < 16) :
    hexValue? (lowerHexDigit value) = some value := by
  interval_cases value <;> rfl

theorem hexValue?_upperHexDigit {value : Nat} (small : value < 16) :
    hexValue? (upperHexDigit value) = some value := by
  interval_cases value <;> rfl

end CallSig.Text
