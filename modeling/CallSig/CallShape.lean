import CallSig.Signature

/-!
# The positional shape of a call

A `CallShape` lists the arguments that a call can give by position, and says
whether it takes more of them. The list ends at the keyword-only marker or at
the first catch-all; a `/` is passed over.
-/

namespace CallSig

/-- The arguments given by position, and whether more are taken. -/
structure CallShape where
  positional : List Argument
  variadic : Bool
  deriving Repr, DecidableEq, Inhabited

namespace CallShape

/-- The shape of a list of arguments. -/
def ofArgs : List Argument → CallShape
  | [] => ⟨[], false⟩
  | arg :: rest =>
    if arg.isPositionalOnlyMarker then ofArgs rest
    else if arg.isKeywordOnlyMarker || arg.isVarKeyword then ⟨[], false⟩
    else if arg.isVarPositional then ⟨[], true⟩
    else
      let shape := ofArgs rest
      { shape with positional := arg :: shape.positional }

end CallShape

/-- The positional shape of a signature. -/
def Signature.callShape (signature : Signature) : CallShape :=
  CallShape.ofArgs signature.args

end CallSig
