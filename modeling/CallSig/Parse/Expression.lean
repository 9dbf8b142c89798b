import CallSig.Bracket.Scan
import CallSig.Text.Blank

/-!
# Where a type or a default value ends

A type ends at `=`, at `,`, at `)`, or at a `[` that starts an optional group: one
whose first visible character is a comma, as in `x: int[, y]`. Any other `[`
is a subscript, read as a whole. A default value that starts with a bracket is
that bracket as a whole, if it closes; any other one ends at `,`, `)` or `[`.

Both readers return the expression, trimmed, and the text after it; the length
lemmas say that they never return more text than they were given.
-/

namespace CallSig.Parse

open CallSig.Bracket CallSig.Text

/-- The characters that end a type. -/
def typeStops : List Char :=
  ['=', ',', ')', '[']

/-- The characters that end a default value. -/
def defaultStops : List Char :=
  [',', ')', '[']

/-- Whether a `[` with this text after it starts an optional group when it
follows a type. -/
def startsOptionalGroup (afterBracket : List Char) : Bool :=
  (trimStart afterBracket).head? == some ','

/-- The text up to the end of a type, and the text after it. -/
def cutType? (text : List Char) : Option (List Char × List Char) :=
  match _found : cut? typeStops text with
  | none => none
  | some (taken, '[' :: rest) =>
    if startsOptionalGroup rest then some (taken, '[' :: rest)
    else
      match _skipped : skipGroup? ('[' :: rest) with
      | none => none
      | some (subscript, after) =>
        (cutType? after).map fun (more, left) => (taken ++ subscript ++ more, left)
  | some (taken, left) => some (taken, left)
termination_by text.length
decreasing_by
  have shorter := skipGroup?_length_lt _skipped
  have bound := cut?_length_le _found
  omega

/-- The type that a text starts with, and the text after it. -/
def splitType? (text : List Char) : Option (List Char × List Char) :=
  (cutType? text).map fun (taken, left) => (trim taken, left)

/-- Whether a default value that starts with this character is one bracket. -/
def opensValue (c : Char) : Bool :=
  c = '(' || c = '[' || c = '{'

/-- The bracket that a text starts with, when it starts with one that closes. -/
def leadingBracket? : List Char → Option (List Char × List Char)
  | [] => none
  | c :: rest => if opensValue c then skipGroup? (c :: rest) else none

/-- The default value that a text starts with, and the text after it. -/
def splitDefault? (text : List Char) : Option (List Char × List Char) :=
  match leadingBracket? (trimStart text) with
  | some whole => some whole
  | none => (cut? defaultStops (trimStart text)).map fun (taken, left) => (trim taken, left)

/-! ## Nothing is read twice -/

theorem cutType?_length_le {text taken left : List Char}
    (found : cutType? text = some (taken, left)) : left.length ≤ text.length := by
  fun_induction cutType? text generalizing taken with
  | case1 => simp at found
  | case2 text cutTaken rest cutFound optional =>
    simp only [Option.some.injEq, Prod.mk.injEq] at found
    rw [← found.2]
    exact cut?_length_le cutFound
  | case3 => simp at found
  | case4 text cutTaken rest cutFound _ subscript after skipped ih =>
    obtain ⟨⟨more, moreLeft⟩, again, same⟩ := Option.map_eq_some_iff.mp found
    simp only [Prod.mk.injEq] at same
    obtain ⟨-, rfl⟩ := same
    have bound := cut?_length_le cutFound
    have shorter := skipGroup?_length_lt skipped
    have last := ih again
    omega
  | case5 text cutTaken cutLeft _ cutFound =>
    simp only [Option.some.injEq, Prod.mk.injEq] at found
    rw [← found.2]
    exact cut?_length_le cutFound

theorem splitType?_length_le {text taken left : List Char}
    (found : splitType? text = some (taken, left)) : left.length ≤ text.length := by
  obtain ⟨⟨cutTaken, cutLeft⟩, cutFound, same⟩ := Option.map_eq_some_iff.mp found
  simp only [Prod.mk.injEq] at same
  obtain ⟨-, rfl⟩ := same
  exact cutType?_length_le cutFound

theorem leadingBracket?_length_le {text taken left : List Char}
    (found : leadingBracket? text = some (taken, left)) : left.length ≤ text.length := by
  unfold leadingBracket? at found
  split at found
  · simp at found
  · split at found
    · exact Nat.le_of_lt (skipGroup?_length_lt found)
    · simp at found

theorem splitDefault?_length_le {text taken left : List Char}
    (found : splitDefault? text = some (taken, left)) : left.length ≤ text.length := by
  refine Nat.le_trans ?_ (length_trimStart_le text)
  unfold splitDefault? at found
  split at found
  · next whole leading =>
    simp only [Option.some.injEq] at found
    exact leadingBracket?_length_le (leading.trans (congrArg some found))
  · obtain ⟨⟨cutTaken, cutLeft⟩, cutFound, same⟩ := Option.map_eq_some_iff.mp found
    simp only [Prod.mk.injEq] at same
    obtain ⟨-, rfl⟩ := same
    exact cut?_length_le cutFound

end CallSig.Parse
