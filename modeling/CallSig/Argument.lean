import CallSig.Text.Blank

/-!
# Arguments

An `Argument` is one entry of a parameter list. Its type and its default value
are opaque text. The name is an identifier, one of the markers `*` and `/`, a
catch-all such as `*args` or `**kwargs`, or a whole parenthesised group such as
`(a1, a2, ...)`; the predicates here tell these apart by the name alone.
-/

namespace CallSig

/-- One entry of a parameter list. -/
structure Argument where
  name : String
  typeExpr : Option String
  defaultExpr : Option String
  /-- Whether the argument stands in a bracket group that may be left out. -/
  optional : Bool
  deriving Repr, DecidableEq, Inhabited

namespace Argument

/-- An argument of which only the name is known. -/
def named (name : String) : Argument :=
  ⟨name, none, none, false⟩

/-- The text without blanks around it, or nothing when it is blank. -/
def present? (text : String) : Option String :=
  (Text.nonEmpty? text.toList).map String.ofList

/-- The argument with this type; a blank text means that there is none. -/
def withType (arg : Argument) (text : String) : Argument :=
  { arg with typeExpr := present? text }

/-- The argument with this default value; a blank text means that there is
none. -/
def withDefault (arg : Argument) (text : String) : Argument :=
  { arg with defaultExpr := present? text }

/-- The argument as one that may be left out. -/
def asOptional (arg : Argument) : Argument :=
  { arg with optional := true }

/-- Whether a default value is recorded. -/
def hasDefault (arg : Argument) : Bool :=
  arg.defaultExpr.isSome

/-! ## What the name says -/

/-- The marker after which arguments go by keyword only; some texts write it
with a backslash. -/
def isKeywordOnlyMarker (arg : Argument) : Bool :=
  arg.name == "*" || arg.name == "\\*"

/-- The marker before which arguments go by position only. -/
def isPositionalOnlyMarker (arg : Argument) : Bool :=
  arg.name == "/"

/-- Whether the argument is a marker and no parameter. -/
def isMarker (arg : Argument) : Bool :=
  arg.isKeywordOnlyMarker || arg.isPositionalOnlyMarker

/-- A catch-all of positional arguments: one star and a name. -/
def isVarPositional (arg : Argument) : Bool :=
  match arg.name.toList with
  | '*' :: c :: _ => c != '*'
  | _ => false

/-- A catch-all of keyword arguments: two stars in front. -/
def isVarKeyword (arg : Argument) : Bool :=
  match arg.name.toList with
  | '*' :: '*' :: _ => true
  | _ => false

/-- A parenthesised group of names. -/
def isGroup (arg : Argument) : Bool :=
  arg.name.toList.head? == some '('

/-! ## The argument as a line of text -/

/-- An optional piece of text with a mark in front of it. -/
def marked (mark : String) : Option String → String
  | some text => mark ++ text
  | none => ""

/-- The argument as `name: type = default`, without its optional flag. -/
def renderBare (arg : Argument) : String :=
  arg.name ++ marked ": " arg.typeExpr ++ marked " = " arg.defaultExpr

/-- The argument as `name: type = default`, in square brackets when it may be
left out. -/
def render (arg : Argument) : String :=
  if arg.optional then "[" ++ arg.renderBare ++ "]" else arg.renderBare

theorem isVarPositional_asOptional (arg : Argument) :
    arg.asOptional.isVarPositional = arg.isVarPositional := rfl

end Argument

end CallSig
