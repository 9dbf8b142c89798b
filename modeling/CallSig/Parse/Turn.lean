import CallSig.Bracket.Matching
import CallSig.Parse.Event
import CallSig.Parse.Expression

/-!
# One turn of reading a parameter list

`nextTurn` reads one construct off the front of a parameter list. After leading
blanks and commas come an optional group `[...]`, a grouped name `(...)` with or
without a default, or a name up to `,`, `:`, `=`, `)` or `[` with its type and
default. What a turn leaves to be read is always shorter than what it was given
(`Turn.below_nextTurn`), which is why reading ends.
-/

namespace CallSig.Parse

open CallSig.Bracket CallSig.Text

/-- How a list goes on after an argument. -/
inductive After where
  | more (rest : List Char)
  | finished
  | abandoned (why : Abandonment)
  deriving Repr, DecidableEq

/-- What one turn finds. -/
inductive Turn where
  | finished
  | abandoned (why : Abandonment)
  /-- A separator that stands where a name should be. -/
  | skip (rest : List Char)
  | group (inner rest : List Char)
  | argument (arg : Argument) (after : After)
  deriving Repr, DecidableEq

/-- The characters that end a name. -/
def nameStops : List Char :=
  [',', ':', '=', ')', '[']

/-- Whether the character only separates arguments. -/
def isSeparator (c : Char) : Bool :=
  isBlank c || c = ','

/-- The name that an ellipsis stands for: more keywords after an argument with
a default, more positional arguments otherwise. -/
def ellipsisName (previous : Option Argument) : String :=
  match previous with
  | some arg => if arg.hasDefault then "**kwargs" else "**args"
  | none => "**args"

/-- The argument named by `text`, which may be an ellipsis. -/
def namedArgument (previous : Option Argument) (text : String) : Argument :=
  .named (if text = "..." then ellipsisName previous else text)

/-- The text in the form in which an argument keeps it. -/
def kept (text : List Char) : Option String :=
  Argument.present? (String.ofList text)

/-- Reads the default value of an argument from the text after its `=`. -/
def readDefault (arg : Argument) (text : List Char) : Turn :=
  match splitDefault? text with
  | some (value, rest) => .argument { arg with defaultExpr := kept value } (.more rest)
  | none => .argument arg (.abandoned (.unclosedDefault arg.name))

/-- Reads a default value if the text starts with `=`. -/
def readOptionalDefault (arg : Argument) : List Char → Turn
  | '=' :: value => readDefault arg value
  | rest => .argument arg (.more rest)

/-- Reads the type of an argument, and its default value, from the text after
its `:`. The name is as it was written. -/
def readType (name : String) (arg : Argument) (text : List Char) : Turn :=
  match splitType? text with
  | some (type, rest) => readOptionalDefault { arg with typeExpr := kept type } rest
  | none => .argument arg (.abandoned (.unclosedType name))

/-- Reads what follows a name. -/
def readAfterName (name : String) (arg : Argument) : List Char → Turn
  | ':' :: text => readType name arg text
  | '=' :: text => readDefault arg text
  | ')' :: _ => .argument arg .finished
  | [] => .argument arg (.more [])
  | '[' :: rest => .argument arg (.more ('[' :: rest))
  | _ :: rest => .argument arg (.more rest)

/-- Goes past a separator that has no name in front of it. -/
def readNameless : List Char → Turn
  | [] => .finished
  | ')' :: _ => .finished
  | '[' :: _ => .finished
  | _ :: rest => .skip rest

/-- Reads a name and what belongs to it. -/
def readName (previous : Option Argument) (text : List Char) : Turn :=
  match cut? nameStops text with
  | none => .abandoned (.unclosedName (String.ofList text))
  | some (taken, after) =>
    match trim taken with
    | [] => readNameless after
    | name =>
      readAfterName (String.ofList name) (namedArgument previous (String.ofList name)) after

/-- Reads an optional group from the text after its `[`, unless it stands in
too many others. -/
def readGroup (depth : Nat) (text : List Char) : Turn :=
  if maxGroupDepth ≤ depth then .abandoned .groupsTooDeep
  else
    match splitClose? '[' ']' 0 text with
    | none => .abandoned (.unbalancedOptionalGroup (String.ofList ('[' :: text)))
    | some (inner, rest) => .group inner rest

/-- Reads a grouped name, and its default value, from the text after its `(`. -/
def readGroupedName (text : List Char) : Turn :=
  match splitClose? '(' ')' 0 text with
  | none => .abandoned (.unbalancedGroupedName (String.ofList ('(' :: text)))
  | some (inner, rest) =>
    readOptionalDefault (.named (String.ofList ('(' :: inner ++ [')']))) (trimStart rest)

/-- Reads one construct off the front of a list that stands in `depth` optional
groups and in which `previous` is the last argument so far. -/
def nextTurn (depth : Nat) (previous : Option Argument) (body : List Char) : Turn :=
  match body.dropWhile isSeparator with
  | [] => .finished
  | '[' :: rest => readGroup depth rest
  | '(' :: rest => readGroupedName rest
  | c :: rest => readName previous (c :: rest)

/-! ## Every turn makes progress -/

/-- What a turn leaves to be read is shorter than `bound`. -/
def Turn.Below (bound : Nat) : Turn → Prop
  | .skip rest => rest.length < bound
  | .group inner rest => inner.length < bound ∧ rest.length < bound
  | .argument _ (.more rest) => rest.length < bound
  | _ => True

theorem Turn.Below.mono {low high : Nat} {turn : Turn} (below : turn.Below low)
    (le : low ≤ high) : turn.Below high := by
  unfold Turn.Below at below ⊢
  split <;> simp_all <;> omega

theorem readDefault_below (arg : Argument) (text : List Char) :
    (readDefault arg text).Below (text.length + 1) := by
  unfold readDefault
  split
  · next found => exact Nat.lt_succ_of_le (splitDefault?_length_le found)
  · trivial

theorem readOptionalDefault_below (arg : Argument) (text : List Char) :
    (readOptionalDefault arg text).Below (text.length + 1) := by
  unfold readOptionalDefault
  split
  · exact (readDefault_below arg _).mono (by simp)
  · exact Nat.lt_succ_self _

theorem readType_below (name : String) (arg : Argument) (text : List Char) :
    (readType name arg text).Below (text.length + 1) := by
  unfold readType
  split
  · next found =>
    exact (readOptionalDefault_below _ _).mono (Nat.succ_le_succ (splitType?_length_le found))
  · trivial

theorem readGroup_below (depth : Nat) (text : List Char) :
    (readGroup depth text).Below (text.length + 1) := by
  unfold readGroup
  split
  · trivial
  · split
    · trivial
    · next found =>
      have shorter := splitClose?_length_lt found
      exact ⟨by omega, by omega⟩

theorem readGroupedName_below (text : List Char) :
    (readGroupedName text).Below (text.length + 1) := by
  unfold readGroupedName
  split
  · trivial
  · next inner rest found =>
    have shorter := splitClose?_length_lt found
    have trimmed := length_trimStart_le rest
    exact (readOptionalDefault_below _ _).mono (by omega)

/-- What follows a name and is not read with it is shorter than the text that
the name stands in. -/
theorem readAfterName_below (name : String) (arg : Argument) {after : List Char} {bound : Nat}
    (le : after.length ≤ bound) (notAll : ∀ rest, after = '[' :: rest → after.length < bound)
    (pos : 0 < bound) : (readAfterName name arg after).Below bound := by
  unfold readAfterName
  split
  · exact (readType_below name arg _).mono (by simpa using le)
  · exact (readDefault_below arg _).mono (by simpa using le)
  · trivial
  · exact pos
  · next rest => exact notAll rest rfl
  · simp only [List.length_cons] at le
    exact Nat.lt_of_succ_le le

theorem readNameless_below {after : List Char} {bound : Nat} (le : after.length ≤ bound) :
    (readNameless after).Below bound := by
  unfold readNameless
  split
  · trivial
  · trivial
  · trivial
  · simp only [List.length_cons] at le
    exact Nat.lt_of_succ_le le

theorem readName_below (previous : Option Argument) {c : Char} {rest : List Char} :
    (readName previous (c :: rest)).Below (c :: rest).length := by
  unfold readName
  split
  · trivial
  · next taken after found =>
    have whole := cut?_eq_some found
    have le := cut?_length_le found
    split
    · exact readNameless_below le
    · next visible =>
      refine readAfterName_below _ _ le (fun tail same => ?_) (by simp)
      cases taken with
      | nil => exact absurd rfl visible
      | cons d more =>
        have lengths := congrArg List.length whole
        simp only [List.length_append, List.length_cons] at lengths ⊢
        omega

theorem length_dropWhile_le (test : Char → Bool) (text : List Char) :
    (text.dropWhile test).length ≤ text.length := by
  induction text with
  | nil => simp
  | cons c rest ih =>
    rw [List.dropWhile_cons]
    split
    · simp only [List.length_cons]; omega
    · exact Nat.le_refl _

/-- What a turn leaves to be read is shorter than what it was given. -/
theorem Turn.below_nextTurn (depth : Nat) (previous : Option Argument) (body : List Char) :
    (nextTurn depth previous body).Below body.length := by
  have le := length_dropWhile_le isSeparator body
  unfold nextTurn
  split
  · trivial
  · next rest same =>
    rw [same] at le
    exact (readGroup_below depth rest).mono (by simpa using le)
  · next rest same =>
    rw [same] at le
    exact (readGroupedName_below rest).mono (by simpa using le)
  · next c rest _ _ same =>
    rw [same] at le
    exact (readName_below previous).mono le

end CallSig.Parse
