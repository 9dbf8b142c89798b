import CallSig.Argument

/-!
# Signatures

A `Signature` is the ordered list of arguments of a call, together with the
fact whether a positional catch-all was met while it was read.
-/

namespace CallSig

/-- The arguments of a call in their order. -/
structure Signature where
  args : List Argument
  /-- Whether there is a catch-all such as `*args`. -/
  variadic : Bool
  deriving Repr, DecidableEq, Inhabited

namespace Signature

/-- The signature without arguments. -/
def empty : Signature :=
  ⟨[], false⟩

/-- The names of all arguments in order, markers among them. -/
def names (signature : Signature) : List String :=
  signature.args.map (·.name)

/-- The arguments between parentheses, separated by commas. -/
def render (signature : Signature) : String :=
  "(" ++ ", ".intercalate (signature.args.map Argument.render) ++ ")"

end Signature

end CallSig
