import CallSig.CallShape

/-!
# Which arguments a call gives by position

Behind a keyword-only marker or a catch-all no argument is given by position
(`Argument.endsPositional`). The shape of a call is cut at the first such
argument: `CallShape.ofArgs_eq` says that it has the arguments in front of it,
without the markers among them, and takes more when it is a positional catch-all.

What an argument is follows from its name alone, and no name is of two of these
kinds; the lemmas on names say so.
-/

namespace CallSig

namespace Argument

variable {arg : Argument}

/-! ## Names of one kind are of no other -/

theorem name_of_isMarker (marker : arg.isMarker = true) :
    arg.name = "*" ∨ arg.name = "\\*" ∨ arg.name = "/" := by
  simpa [isMarker, isKeywordOnlyMarker, isPositionalOnlyMarker, or_assoc] using marker

theorem isVarPositional_of_isMarker (marker : arg.isMarker = true) :
    arg.isVarPositional = false := by
  rcases name_of_isMarker marker with name | name | name <;> rw [isVarPositional, name] <;> rfl

theorem isVarKeyword_of_isMarker (marker : arg.isMarker = true) :
    arg.isVarKeyword = false := by
  rcases name_of_isMarker marker with name | name | name <;> rw [isVarKeyword, name] <;> rfl

theorem isKeywordOnlyMarker_of_isPositionalOnlyMarker
    (marker : arg.isPositionalOnlyMarker = true) : arg.isKeywordOnlyMarker = false := by
  rw [isPositionalOnlyMarker, beq_iff_eq] at marker
  rw [isKeywordOnlyMarker, marker]
  rfl

/-- A name with two stars does not count as one with a single star. -/
theorem isVarPositional_of_isVarKeyword (catchAll : arg.isVarKeyword = true) :
    arg.isVarPositional = false := by
  unfold isVarKeyword at catchAll
  split at catchAll
  · next rest chars =>
    rw [isVarPositional, chars]
    rfl
  · cases catchAll

/-! ## The end of the positional arguments -/

/-- Whether no argument behind this one is given by position. -/
def endsPositional (arg : Argument) : Bool :=
  arg.isKeywordOnlyMarker || arg.isVarKeyword || arg.isVarPositional

/-- Arguments behind a slash may still be given by position. -/
theorem endsPositional_of_isPositionalOnlyMarker (marker : arg.isPositionalOnlyMarker = true) :
    arg.endsPositional = false := by
  have anyMarker : arg.isMarker = true := by simp [isMarker, marker]
  simp [endsPositional, isKeywordOnlyMarker_of_isPositionalOnlyMarker marker,
    isVarKeyword_of_isMarker anyMarker, isVarPositional_of_isMarker anyMarker]

/-- A marker ends the positional arguments when it is the keyword-only one. -/
theorem endsPositional_of_isMarker (marker : arg.isMarker = true) :
    arg.endsPositional = arg.isKeywordOnlyMarker := by
  simp [endsPositional, isVarKeyword_of_isMarker marker, isVarPositional_of_isMarker marker]

/-- An argument that is no marker ends the positional arguments when it is a
catch-all. -/
theorem endsPositional_of_not_isMarker (parameter : arg.isMarker = false) :
    arg.endsPositional = (arg.isVarKeyword || arg.isVarPositional) := by
  rw [isMarker, Bool.or_eq_false_iff] at parameter
  simp [endsPositional, parameter.1]

end Argument

/-- The arguments of a list that are no markers. -/
def realArguments (args : List Argument) : List Argument :=
  args.filter (!·.isMarker)

namespace CallShape

/-- A shape is the front of the arguments up to the one that ends it. -/
theorem ofArgs_eq (args : List Argument) :
    ofArgs args =
      ⟨realArguments (args.takeWhile (!·.endsPositional)),
        (args.find? (·.endsPositional)).any (·.isVarPositional)⟩ := by
  induction args with
  | nil => rfl
  | cons arg rest ih =>
    -- The tests in the order in which `ofArgs` makes them; `endsPositional` makes them in another.
    rw [ofArgs]
    by_cases slash : arg.isPositionalOnlyMarker = true
    · have goesOn := Argument.endsPositional_of_isPositionalOnlyMarker slash
      have marker : arg.isMarker = true := by simp [Argument.isMarker, slash]
      simp [slash, ih, goesOn, marker, realArguments]
    rw [if_neg slash]
    by_cases ends : (arg.isKeywordOnlyMarker || arg.isVarKeyword) = true
    · have noCatchAll : arg.isVarPositional = false := by
        rcases Bool.or_eq_true_iff.mp ends with marker | catchAll
        · exact Argument.isVarPositional_of_isMarker (by simp [Argument.isMarker, marker])
        · exact Argument.isVarPositional_of_isVarKeyword catchAll
      have stops : arg.endsPositional = true := by rw [Argument.endsPositional, ends, Bool.true_or]
      simp [ends, stops, noCatchAll, realArguments]
    rw [if_neg ends]
    rw [Bool.not_eq_true] at slash ends
    by_cases catchAll : arg.isVarPositional = true
    · have stops : arg.endsPositional = true := by
        rw [Argument.endsPositional, catchAll, Bool.or_true]
      simp [catchAll, stops, realArguments]
    · rw [Bool.not_eq_true] at catchAll
      have goesOn : arg.endsPositional = false := by
        rw [Argument.endsPositional, ends, catchAll, Bool.or_false]
      rw [Bool.or_eq_false_iff] at ends
      have parameter : arg.isMarker = false := by rw [Argument.isMarker, ends.1, slash, Bool.or_false]
      simp [catchAll, ih, goesOn, parameter, realArguments]

end CallShape

end CallSig
