import CallSig.Argument
import CallSig.Text.Quoted

/-!
# What happens while a signature is read

Reading never fails: a construct that runs into an unclosed quote or bracket is
abandoned, and what was read before it stands. Each argument that is recorded
and each construct that is abandoned is an `Event`; its `message` is what a log
shows.
-/

namespace CallSig.Parse

/-- The number of optional groups that may stand inside one another. -/
def maxGroupDepth : Nat := 64

/-- Why a construct was given up. -/
inductive Abandonment where
  /-- The text starts with no list of parameters that is closed. -/
  | unbalancedList (text : String)
  | unbalancedGroupedName (text : String)
  | unclosedName (text : String)
  | unclosedType (name : String)
  | unclosedDefault (name : String)
  | groupsTooDeep
  | unbalancedOptionalGroup (text : String)
  deriving Repr, DecidableEq

/-- Something that happened while a signature was read. -/
inductive Event where
  | parsed (arg : Argument)
  | abandoned (why : Abandonment)
  deriving Repr, DecidableEq

def Abandonment.message : Abandonment → String
  | .unbalancedList text => "no balanced parameter list in " ++ Text.quoted text
  | .unbalancedGroupedName text => "unbalanced grouped name at " ++ Text.quoted text
  | .unclosedName text => "unclosed quote or bracket in parameter name at " ++ Text.quoted text
  | .unclosedType name => "unclosed quote or bracket in annotation of " ++ Text.quoted name
  | .unclosedDefault name => "unclosed quote or bracket in default of " ++ Text.quoted name
  | .groupsTooDeep =>
    "optional groups nested deeper than " ++ toString maxGroupDepth ++ ", stopping"
  | .unbalancedOptionalGroup text => "unbalanced optional group at " ++ Text.quoted text

/-- The event as a log shows it. -/
def Event.message : Event → String
  | .parsed arg => "parsed argument " ++ arg.render
  | .abandoned why => why.message

end CallSig.Parse
