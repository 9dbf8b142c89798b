import CallSig.Proofs.Call.Shape
import CallSig.Proofs.Parse.Layout
import CallSig.Report

/-!
# The flags for positional catch-alls

While a list is read, a flag is kept for the positional catch-alls in it and in
its groups. However the reading of a group or of the list ends, the flag says
that there is one among the arguments that are returned (`gives_readList`).

The shape in a report has a flag of its own, taken from the arguments alone.
`variadic_report` says how the two go together: the flag of the shape is the
stricter one, as a marker or another catch-all in front hides a positional
catch-all from it.
-/

namespace CallSig

namespace Parse

/-- Whatever a list is, its flag is that of the arguments read. -/
theorem gives_readList (depth : Nat) (previous : Option Argument) (body : List Char) :
    (readList depth previous body).Gives (readList depth previous body).args := by
  fun_induction readList depth previous body with
  | case1 => exact ⟨rfl, rfl⟩
  | case2 => exact ⟨rfl, rfl⟩
  | case3 depth previous body rest turn ih => exact ih
  | case4 depth previous body inner rest turn group ihInner ihRest =>
    exact ihInner.asOptional.append ihRest
  | case5 depth previous body arg turn => exact Reading.gives_single arg
  | case6 depth previous body arg why turn =>
    have nothing : (Reading.abandoned why).Gives [] := ⟨rfl, rfl⟩
    exact nothing.append (Reading.gives_single arg)
  | case7 depth previous body arg rest turn ih => exact (Reading.gives_single arg).append ih

/-- The flag that is read with a signature is that of the arguments read. -/
theorem gives_readSignature (text : List Char) :
    (readSignature text).Gives (readSignature text).args := by
  unfold readSignature
  split
  · exact gives_readList _ _ _
  · split <;> exact ⟨rfl, rfl⟩

end Parse

/-- A signature is variadic when one of its arguments is. -/
theorem variadic_parseSignature (text : String) :
    (parseSignature text).variadic = (parseArguments text).any (·.isVarPositional) :=
  (Parse.gives_readSignature text.toList).2

namespace CallShape

variable {args : List Argument}

/-- A shape is variadic when the first argument that ends those given by position
collects the rest of them. -/
theorem variadic_ofArgs_iff :
    (ofArgs args).variadic = true ↔
      ∃ arg, args.find? (·.endsPositional) = some arg ∧ arg.isVarPositional = true := by
  rw [ofArgs_eq, Option.any_eq_true]

theorem any_isVarPositional_of_variadic (variadic : (ofArgs args).variadic = true) :
    args.any (·.isVarPositional) = true := by
  obtain ⟨arg, found, catchAll⟩ := variadic_ofArgs_iff.mp variadic
  exact List.any_eq_true.mpr ⟨arg, List.mem_of_find?_eq_some found, catchAll⟩

/-- A positional catch-all that the shape does not show has a keyword-only marker
or another catch-all in front of it. -/
theorem exists_hidden (catchAll : args.any (·.isVarPositional) = true)
    (hidden : (ofArgs args).variadic = false) :
    ∃ front first back, args = front ++ first :: back ∧ first.isVarPositional = true ∧
      (∀ other ∈ front, other.isVarPositional = false) ∧
      ∃ other ∈ front, other.isKeywordOnlyMarker = true ∨ other.isVarKeyword = true := by
  obtain ⟨first, found⟩ :=
    Option.isSome_iff_exists.mp (List.find?_isSome.mpr (List.any_eq_true.mp catchAll))
  obtain ⟨varPositional, front, back, rfl, none⟩ := List.find?_eq_some_iff_append.mp found
  have noneBefore : ∀ other ∈ front, other.isVarPositional = false := by simpa using none
  refine ⟨front, first, back, rfl, varPositional, noneBefore, ?_⟩
  have stops : first.endsPositional = true := by simp [Argument.endsPositional, varPositional]
  -- With nothing in front that ends the positional arguments, the shape would show it.
  cases ends : front.find? (·.endsPositional) with
  | none =>
    have shown : (front ++ first :: back).find? (·.endsPositional) = .some first := by
      simp [List.find?_append, ends, stops]
    rw [variadic_ofArgs_iff.mpr ⟨first, shown, varPositional⟩] at hidden
    cases hidden
  | some other =>
    have inFront := List.mem_of_find?_eq_some ends
    have endsThere := List.find?_some ends
    rw [Argument.endsPositional, noneBefore other inFront, Bool.or_false, Bool.or_eq_true]
      at endsThere
    exact ⟨other, inFront, endsThere⟩

end CallShape

/-- The flag of a signature is that of its arguments, the flag of a shape looks at
the first argument that ends the positional ones, and the second implies the
first. -/
theorem variadic_report (text : String) :
    ((parseSignature text).variadic = true ↔
      ∃ arg ∈ (parseSignature text).args, arg.isVarPositional = true) ∧
    ∃ shape, (Report.ofText text true).shape = some shape ∧
      (shape.variadic = true ↔
        ∃ arg, (parseSignature text).args.find? (fun arg => arg.isKeywordOnlyMarker ||
          arg.isVarKeyword || arg.isVarPositional) = some arg ∧ arg.isVarPositional = true) ∧
      (shape.variadic = true → (Report.ofText text true).variadic = true) ∧
      ((Report.ofText text true).variadic = true → shape.variadic = false →
        ∃ front first back, (Report.ofText text true).arguments = front ++ first :: back ∧
          first.isVarPositional = true ∧ (∀ other ∈ front, other.isVarPositional = false) ∧
          ∃ other ∈ front, other.isKeywordOnlyMarker = true ∨ other.isVarKeyword = true) := by
  have flag := variadic_parseSignature text
  refine ⟨?_, (parseSignature text).callShape, rfl, CallShape.variadic_ofArgs_iff, ?_, ?_⟩
  · rw [flag, List.any_eq_true]
    rfl
  · intro variadic
    exact flag.trans (CallShape.any_isVarPositional_of_variadic variadic)
  · intro variadic hidden
    exact CallShape.exists_hidden (flag.symm.trans variadic) hidden

end CallSig
