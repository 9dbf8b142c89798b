/-!
# Sets of characters given by ranges of code points

Character properties are published as tables of code point ranges. A
`CodeRange` is one line of such a table, both ends included, and `covers` asks
whether a character lies on some line. The tables here are short enough for
this plain search, which needs no order among the lines.
-/

namespace CallSig.Text

/-- The code points from `first` to `last`, both included. -/
structure CodeRange where
  first : Nat
  last : Nat
  deriving Repr, DecidableEq

/-- Whether the code point lies in the range. -/
def CodeRange.holds (range : CodeRange) (code : Nat) : Bool :=
  range.first ≤ code && code ≤ range.last

/-- Whether some line of the table holds the character. -/
def covers (table : List CodeRange) (c : Char) : Bool :=
  table.any (·.holds c.toNat)

end CallSig.Text
