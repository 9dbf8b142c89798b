import CallSig.Signature

/-!
# Parameters and their kinds

The markers `/` and `*` and the catch-alls of a signature say how each real
parameter may be given in a call. `Signature.parameters` resolves them: markers
are dropped, every other argument gets a kind.
-/

namespace CallSig

/-- How a parameter can be given in a call. -/
inductive Parameter.Kind where
  | positionalOnly
  | positionalOrKeyword
  | varPositional
  | keywordOnly
  | varKeyword
  deriving Repr, DecidableEq, Inhabited

/-- The name of a kind in reports. -/
def Parameter.Kind.label : Parameter.Kind → String
  | .positionalOnly => "positional_only"
  | .positionalOrKeyword => "positional_or_keyword"
  | .varPositional => "var_positional"
  | .keywordOnly => "keyword_only"
  | .varKeyword => "var_keyword"

/-- All kinds, in the order in which messages list them. -/
def Parameter.Kind.all : List Parameter.Kind :=
  [.positionalOnly, .positionalOrKeyword, .varPositional, .keywordOnly, .varKeyword]

/-- The kind of a given name. -/
def Parameter.Kind.ofLabel? (label : String) : Option Parameter.Kind :=
  Parameter.Kind.all.find? (·.label == label)

theorem Parameter.Kind.ofLabel?_label (kind : Parameter.Kind) :
    Parameter.Kind.ofLabel? kind.label = some kind := by
  cases kind <;> decide

/-- An argument whose way of being passed is known. -/
structure Parameter where
  name : String
  kind : Parameter.Kind
  typeExpr : Option String
  defaultExpr : Option String
  optional : Bool
  deriving Repr, DecidableEq, Inhabited

namespace Signature

/-- The kind of an argument that is no marker. `keywordOnly` says whether the
positional part is over, `beforeSlash` whether a `/` comes later. -/
def kindOf (keywordOnly beforeSlash : Bool) (arg : Argument) : Parameter.Kind :=
  if arg.isVarKeyword then .varKeyword
  else if arg.isVarPositional then .varPositional
  else if keywordOnly then .keywordOnly
  else if arg.isGroup || beforeSlash then .positionalOnly
  else .positionalOrKeyword

/-- The parameters of a list of arguments. The positional part is over after a
keyword-only marker or a positional catch-all; only the first `/` counts, so
`slashSeen` keeps a later one from reaching back. -/
def parametersFrom (keywordOnly slashSeen : Bool) : List Argument → List Parameter
  | [] => []
  | arg :: rest =>
    if arg.isMarker then
      parametersFrom (keywordOnly || arg.isKeywordOnlyMarker)
        (slashSeen || arg.isPositionalOnlyMarker) rest
    else
      let beforeSlash := !slashSeen && rest.any (·.isPositionalOnlyMarker)
      ⟨arg.name, kindOf keywordOnly beforeSlash arg, arg.typeExpr, arg.defaultExpr,
          arg.optional⟩ ::
        parametersFrom (keywordOnly || arg.isVarPositional) slashSeen rest

/-- Every argument that is no marker, with its kind. -/
def parameters (signature : Signature) : List Parameter :=
  parametersFrom false false signature.args

end Signature

end CallSig
