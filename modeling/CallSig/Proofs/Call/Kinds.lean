import CallSig.Parameter
import CallSig.Proofs.Call.Shape

/-!
# The kinds of parameters and the shape of a call

`Signature.parameters` goes over all arguments and gives each one a kind;
`Signature.callShape` stops at the first argument that ends the positional ones.
`Signature.callShape_of_parameters` says that the two agree: the parameters are
the arguments without the markers, the positional arguments of the shape are those
behind the longest front of parameters of a positional kind, the parameter behind
that front decides whether the call takes more, and none behind it that is a
positional catch-all or goes by keyword has one of a positional kind behind it.
-/

namespace CallSig

namespace Parameter

/-- The argument that a parameter stands for. -/
def argument (parameter : Parameter) : Argument :=
  ⟨parameter.name, parameter.typeExpr, parameter.defaultExpr, parameter.optional⟩

/-- Whether a parameter of this kind can be given by position. -/
def Kind.isPositional : Kind → Bool
  | .positionalOnly | .positionalOrKeyword => true
  | .varPositional | .keywordOnly | .varKeyword => false

end Parameter

namespace Signature

variable {keywordOnly slashSeen beforeSlash : Bool} {arg : Argument} {args : List Argument}
variable {parameter : Parameter}

/-! ## The kind of one argument -/

theorem isPositional_kindOf :
    (kindOf keywordOnly beforeSlash arg).isPositional =
      (!keywordOnly && !(arg.isVarKeyword || arg.isVarPositional)) := by
  unfold kindOf
  cases arg.isVarKeyword <;> cases arg.isVarPositional <;> cases keywordOnly <;>
    cases arg.isGroup <;> cases beforeSlash <;> rfl

theorem kindOf_eq_varPositional_iff :
    kindOf keywordOnly beforeSlash arg = .varPositional ↔ arg.isVarPositional = true := by
  unfold kindOf
  by_cases varKeyword : arg.isVarKeyword = true
  · simp [varKeyword, Argument.isVarPositional_of_isVarKeyword varKeyword]
  · rw [if_neg varKeyword]
    by_cases varPositional : arg.isVarPositional = true
    · simp [varPositional]
    · rw [if_neg varPositional]
      cases keywordOnly <;> cases arg.isGroup <;> cases beforeSlash <;> simp [varPositional]

/-- Behind a parameter of these two kinds the positional part is over. -/
theorem keywordOnly_of_kindOf
    (ends : kindOf keywordOnly beforeSlash arg = .varPositional ∨
      kindOf keywordOnly beforeSlash arg = .keywordOnly) :
    (keywordOnly || arg.isVarPositional) = true := by
  rw [kindOf_eq_varPositional_iff] at ends
  rcases ends with catchAll | byKeyword
  · rw [catchAll, Bool.or_true]
  · unfold kindOf at byKeyword
    split at byKeyword
    · cases byKeyword
    split at byKeyword
    · cases byKeyword
    split at byKeyword
    · next ended => rw [ended, Bool.true_or]
    · split at byKeyword <;> cases byKeyword

/-! ## The parameters of a list -/

/-- The parameters are the arguments that are no markers, in their order. -/
theorem map_argument_parametersFrom (keywordOnly slashSeen : Bool) (args : List Argument) :
    (parametersFrom keywordOnly slashSeen args).map (·.argument) = realArguments args := by
  induction args generalizing keywordOnly slashSeen with
  | nil => rfl
  | cons arg rest ih =>
    rw [parametersFrom]
    cases marker : arg.isMarker with
    | true => simpa [marker, realArguments] using ih _ _
    | false => simpa [marker, realArguments, Parameter.argument] using ih _ _

/-- The kind of a positional catch-all is read off its name alone. -/
theorem kind_eq_varPositional_iff (inside : parameter ∈ parametersFrom keywordOnly slashSeen args) :
    parameter.kind = .varPositional ↔ parameter.argument.isVarPositional = true := by
  induction args generalizing keywordOnly slashSeen with
  | nil => cases inside
  | cons arg rest ih =>
    rw [parametersFrom] at inside
    split at inside
    · exact ih inside
    · rcases List.mem_cons.mp inside with rfl | later
      · exact kindOf_eq_varPositional_iff
      · exact ih later

/-- Once parameters go by keyword, none is positional any more. -/
theorem isPositional_of_keywordOnly (inside : parameter ∈ parametersFrom true slashSeen args) :
    parameter.kind.isPositional = false := by
  induction args generalizing slashSeen with
  | nil => cases inside
  | cons arg rest ih =>
    rw [parametersFrom] at inside
    split at inside
    · exact ih inside
    · rcases List.mem_cons.mp inside with rfl | later
      · exact isPositional_kindOf
      · exact ih later

/-- Behind a starred or a keyword-only parameter none is given by position. -/
theorem pairwise_parametersFrom (keywordOnly slashSeen : Bool) (args : List Argument) :
    (parametersFrom keywordOnly slashSeen args).Pairwise fun earlier later =>
      earlier.kind = .varPositional ∨ earlier.kind = .keywordOnly →
        later.kind.isPositional = false := by
  induction args generalizing keywordOnly slashSeen with
  | nil => exact .nil
  | cons arg rest ih =>
    rw [parametersFrom]
    split
    · exact ih _ _
    · refine .cons (fun later inside ends => ?_) (ih _ _)
      rw [keywordOnly_of_kindOf ends] at inside
      exact isPositional_of_keywordOnly inside

/-! ## The positional front -/

theorem takeWhile_of_keywordOnly (slashSeen : Bool) (args : List Argument) :
    (parametersFrom true slashSeen args).takeWhile (·.kind.isPositional) = [] := by
  cases found : parametersFrom true slashSeen args with
  | nil => rfl
  | cons parameter rest =>
    have inside : parameter ∈ parametersFrom true slashSeen args := found ▸ List.mem_cons_self
    exact List.takeWhile_cons_of_neg (by simp [isPositional_of_keywordOnly inside])

/-- The positional front of the parameters is the front of the arguments up to
the one that ends the positional ones, without the markers. -/
theorem map_argument_takeWhile (slashSeen : Bool) (args : List Argument) :
    ((parametersFrom false slashSeen args).takeWhile (·.kind.isPositional)).map (·.argument) =
      realArguments (args.takeWhile (!·.endsPositional)) := by
  induction args generalizing slashSeen with
  | nil => rfl
  | cons arg rest ih =>
    rw [parametersFrom]
    cases marker : arg.isMarker with
    | true =>
      have ends := Argument.endsPositional_of_isMarker marker
      cases keyword : arg.isKeywordOnlyMarker with
      | true =>
        -- The walk over the parameters goes on, with nothing positional to come.
        rw [keyword] at ends
        simp [takeWhile_of_keywordOnly, ends, realArguments]
      | false =>
        rw [keyword] at ends
        simpa [ends, marker, realArguments] using ih _
    | false =>
      have ends := Argument.endsPositional_of_not_isMarker marker
      have positional : ∀ beforeSlash, (kindOf false beforeSlash arg).isPositional =
          !arg.endsPositional := by
        intro beforeSlash
        rw [isPositional_kindOf, ends]
        rfl
      cases stops : arg.endsPositional with
      | true => simp [positional, stops, realArguments]
      | false =>
        have noCatchAll : arg.isVarPositional = false := by
          rw [stops, eq_comm, Bool.or_eq_false_iff] at ends
          exact ends.2
        simpa [positional, stops, noCatchAll, marker, realArguments, Parameter.argument] using ih _

variable {signature : Signature} {front : List Argument} {place : Nat}

theorem map_argument_parameters (signature : Signature) :
    signature.parameters.map (·.argument) = realArguments signature.args :=
  map_argument_parametersFrom false false signature.args

/-- The parameters in front of the first that is of no positional kind. -/
def positionalFront (signature : Signature) : List Parameter :=
  signature.parameters.takeWhile (·.kind.isPositional)

/-- The parameters given by position are those in front of the first argument that ends
these. -/
theorem map_argument_positionalFront (signature : Signature) :
    signature.positionalFront.map (·.argument) =
      realArguments (signature.args.takeWhile (!·.endsPositional)) :=
  map_argument_takeWhile false signature.args

theorem length_positionalFront (signature : Signature) :
    signature.positionalFront.length =
      (realArguments (signature.args.takeWhile (!·.endsPositional))).length := by
  rw [← map_argument_positionalFront, List.length_map]

/-! ## The parameter behind the positional front -/

/-- The argument is the one that the parameter at a place stands for, and the
arguments in front of it are these. -/
structure ArgumentAt (signature : Signature) (place : Nat) (front : List Argument)
    (arg : Argument) : Prop where
  stands : ∃ back, signature.args = front ++ arg :: back
  parameter : arg.isMarker = false
  behind : (realArguments front).length = place

theorem ArgumentAt.getElem?_eq (argumentAt : signature.ArgumentAt place front arg) :
    (signature.parameters.map (·.argument))[place]? = some arg := by
  obtain ⟨back, stands⟩ := argumentAt.stands
  have real : realArguments signature.args = realArguments front ++ arg :: realArguments back := by
    simp [stands, realArguments, argumentAt.parameter]
  rw [map_argument_parameters, real, ← argumentAt.behind]
  simp

/-- The parameter behind the positional front has in front of it the positional
arguments and markers. -/
theorem ArgumentAt.realArguments_eq
    (argumentAt : signature.ArgumentAt signature.positionalFront.length front arg) :
    realArguments front = realArguments (signature.args.takeWhile (!·.endsPositional)) := by
  obtain ⟨back, stands⟩ := argumentAt.stands
  have before : front <+: signature.args := ⟨_, stands.symm⟩
  have sameLength := argumentAt.behind.trans (length_positionalFront signature)
  have inFront := List.prefix_of_prefix_length_le (before.filter _)
    ((List.takeWhile_prefix _).filter _) (Nat.le_of_eq sameLength)
  exact inFront.eq_of_length sameLength

/-- With no keyword-only marker in front of it, the parameter behind the
positional front is the first argument that may end the positional ones. -/
theorem ArgumentAt.not_endsPositional
    (argumentAt : signature.ArgumentAt signature.positionalFront.length front arg)
    (unmarked : ∀ other ∈ front, other.isKeywordOnlyMarker = false) :
    ∀ other ∈ front, other.endsPositional = false := by
  intro other inFront
  cases marker : other.isMarker with
  | true => rw [Argument.endsPositional_of_isMarker marker, unmarked other inFront]
  | false =>
    have real : other ∈ realArguments front :=
      List.mem_filter.mpr ⟨inFront, by rw [marker]; rfl⟩
    rw [argumentAt.realArguments_eq] at real
    simpa using List.all_eq_true.mp List.all_takeWhile other (List.mem_filter.mp real).1

/-- A catch-all with nothing in front of it that ends the positional arguments is
the parameter behind the positional front. -/
theorem argumentAt_of_not_endsPositional {back : List Argument}
    (stands : signature.args = front ++ arg :: back) (catchAll : arg.isVarPositional = true)
    (goesOn : ∀ other ∈ front, other.endsPositional = false) :
    signature.ArgumentAt signature.positionalFront.length front arg where
  stands := ⟨back, stands⟩
  parameter := by
    cases marker : arg.isMarker with
    | false => rfl
    | true =>
      rw [Argument.isVarPositional_of_isMarker marker] at catchAll
      cases catchAll
  behind := by
    have stops : arg.endsPositional = true := by simp [Argument.endsPositional, catchAll]
    have cut : signature.args.takeWhile (!·.endsPositional) = front := by
      rw [stands, List.takeWhile_append_of_pos (by simpa using goesOn),
        List.takeWhile_cons_of_neg (by simp [stops]), List.append_nil]
    rw [length_positionalFront, cut]

/-- A call takes more positional arguments when the parameter behind the
positional front is a catch-all, and no keyword-only marker comes first. -/
theorem variadic_callShape_iff (signature : Signature) :
    signature.callShape.variadic = true ↔
      ∃ front arg parameter,
        signature.ArgumentAt signature.positionalFront.length front arg ∧
        signature.parameters[signature.positionalFront.length]? = some parameter ∧
        parameter.kind = .varPositional ∧
        ∀ other ∈ front, other.isKeywordOnlyMarker = false := by
  rw [callShape, CallShape.ofArgs_eq, Option.any_eq_true]
  constructor
  · intro first
    rcases first with ⟨arg, found, catchAll⟩
    obtain ⟨stops, front, back, stands, goesOn⟩ := List.find?_eq_some_iff_append.mp found
    have noEnd : ∀ other ∈ front, other.endsPositional = false := by simpa using goesOn
    have argumentAt := argumentAt_of_not_endsPositional stands catchAll noEnd
    have there := argumentAt.getElem?_eq
    rw [List.getElem?_map, Option.map_eq_some_iff] at there
    obtain ⟨parameter, inside, same⟩ := there
    refine ⟨front, arg, parameter, argumentAt, inside, ?_, fun other inFront => ?_⟩
    · rw [kind_eq_varPositional_iff (List.mem_of_getElem? inside), same]
      exact catchAll
    · have goesOn := noEnd other inFront
      simp only [Argument.endsPositional, Bool.or_eq_false_iff] at goesOn
      exact goesOn.1.1
  · intro behind
    rcases behind with ⟨front, arg, parameter, argumentAt, inside, kind, unmarked⟩
    -- No marker and no catch-all comes first, so the shape gets as far as this argument.
    have there := argumentAt.getElem?_eq
    rw [List.getElem?_map, inside, Option.map_some, Option.some.injEq] at there
    have catchAll : arg.isVarPositional = true := by
      rw [← there]
      exact (kind_eq_varPositional_iff (List.mem_of_getElem? inside)).mp kind
    have goesOn := argumentAt.not_endsPositional unmarked
    obtain ⟨back, stands⟩ := argumentAt.stands
    refine ⟨arg, List.find?_eq_some_iff_append.mpr ⟨?_, front, back, stands, ?_⟩, catchAll⟩
    · simp [Argument.endsPositional, catchAll]
    · simpa using goesOn

/-- The walk that gives every parameter its kind and the walk that lays out the
positional arguments agree. -/
theorem callShape_of_parameters (signature : Signature) :
    signature.parameters.map (·.argument) = signature.args.filter (!·.isMarker) ∧
    signature.callShape.positional = signature.positionalFront.map (·.argument) ∧
    (signature.callShape.variadic = true ↔
      ∃ front arg parameter,
        signature.ArgumentAt signature.positionalFront.length front arg ∧
        signature.parameters[signature.positionalFront.length]? = some parameter ∧
        parameter.kind = .varPositional ∧
        ∀ other ∈ front, other.isKeywordOnlyMarker = false) ∧
    signature.parameters.Pairwise fun earlier later =>
      earlier.kind = .varPositional ∨ earlier.kind = .keywordOnly →
        later.kind ≠ .positionalOnly ∧ later.kind ≠ .positionalOrKeyword := by
  refine ⟨map_argument_parameters signature, ?_, variadic_callShape_iff signature, ?_⟩
  · rw [map_argument_positionalFront, callShape, CallShape.ofArgs_eq]
  · refine (pairwise_parametersFrom false false signature.args).imp fun positionalEnds ends => ?_
    have notPositional := positionalEnds ends
    constructor <;> intro kind <;> rw [kind] at notPositional <;> cases notPositional

end Signature

end CallSig
