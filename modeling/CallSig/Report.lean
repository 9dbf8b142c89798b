import CallSig.CallShape
import CallSig.Parse.Reading

/-!
# Reports

A `Report` says what was read from one signature text. It is the record that
every output format writes.
-/

namespace CallSig

/-- What was read from one signature text. -/
structure Report where
  /-- The text as it was given. -/
  signature : String
  arguments : List Argument
  variadic : Bool
  shape : Option CallShape
  deriving Repr, DecidableEq, Inhabited

/-- The report on a text, with the shape of the call when it is asked for. -/
def Report.ofText (text : String) (withShape : Bool) : Report :=
  let parsed := parseSignature text
  ⟨text, parsed.args, parsed.variadic, if withShape then some parsed.callShape else none⟩

end CallSig
