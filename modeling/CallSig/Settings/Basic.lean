import CallSig.Settings.Error
import CallSig.Settings.Value
import CallSig.Text.LowerCase

/-!
# The settings

`Settings` says how signatures are read from a source of lines and how reports
are written. They are taken out of a tree of values, where a value of another
type is converted if that makes sense: numbers and truth values to text, numbers
and a few words to truth values.

A section is a table. A list in its place is read as its fields in order.
-/

namespace CallSig

/-- How signatures are read and reports are written. -/
structure Settings where
  /-- Lines that start with this text are comments; there are none if it is
  empty. -/
  commentMark : String
  /-- The name of the output format. -/
  format : String
  /-- Whether reports have the shape of the call. -/
  shape : Bool
  deriving Repr, DecidableEq

namespace Settings

/-- Doubles as text: as many digits as they need, and no exponent. -/
def floatLayout : Decimal.Layout :=
  ⟨none, false, .up, false⟩

/-- Doubles in messages: whole numbers have a point as well. -/
def shownFloatLayout : Decimal.Layout :=
  ⟨none, true, .up, false⟩

/-- The file that a value comes from. -/
def Value.origin : Value → Option String
  | .scalar origin _ => origin
  | .array origin _ => origin
  | .table origin _ => origin

/-- What a value is that cannot be converted. -/
def Value.found : Value → Found
  | .scalar _ (.text value) => .text value
  | .scalar _ _ => .nothing
  | .array _ _ => .list
  | .table _ _ => .table

/-- The text of a scalar, unless it is nil. -/
def Scalar.text? : Scalar → Option String
  | .nil => none
  | .bool value => some (toString value)
  | .integer value => some (toString value)
  | .float value => some (floatLayout.render value)
  | .text value => some value

/-- The truth value that a word says, in lower case. -/
def boolWord? (word : String) : Option Bool :=
  if ["1", "true", "on", "yes"].contains word then some true
  else if ["0", "false", "off", "no"].contains word then some false
  else none

/-- The text that a value says under a key. -/
def textOf (key : String) (value : Value) : Except Error String :=
  let wrong : Except Error String :=
    .error (.wrongType value.found "a string" key value.origin)
  match value with
  | .scalar _ scalar =>
    match scalar.text? with
    | some text => .ok text
    | none => wrong
  | _ => wrong

/-- The truth value that a value says under a key. -/
def boolOf (key : String) (value : Value) : Except Error Bool :=
  let wrong (found : Found) : Except Error Bool :=
    .error (.wrongType found "a boolean" key value.origin)
  match value with
  | .scalar _ (.bool value) => .ok value
  | .scalar _ (.integer value) => .ok (value != 0)
  | .scalar _ (.float value) => .ok (value != 0.0)
  | .scalar _ (.text text) =>
    let lower := Text.lowerCase text
    match boolWord? lower with
    | some value => .ok value
    | none => wrong (.text lower)
  | other => wrong other.found

/-! ## Sections -/

/-- What stands where a section is wanted. -/
def Scalar.describe : Scalar → String
  | .nil => "unit value"
  | .bool value => "boolean `" ++ toString value ++ "`"
  | .integer value => "integer `" ++ toString value ++ "`"
  | .float value => "floating point `" ++ shownFloatLayout.render value ++ "`"
  | .text value => "string " ++ Text.quoted value

/-- The value under a key of a section; an item of a list stands for the field
of its place. `read` converts it. -/
def required {α : Type} (name : String) (value : Option (Except Error α)) : Except Error α :=
  match value with
  | some result => result
  | none => .error (.missingField name)

/-- The item of a list that is read as a section. -/
def itemOf {α : Type} (part record : String) (size place : Nat)
    (read : String → Value → Except Error α) (items : List Value) : Except Error α :=
  match items[place]? with
  | some item => read (part ++ "[" ++ toString place ++ "]") item
  | none => .error (.shortSection place record size)

/-- The mark of comments in the section on input. -/
def inputOf : Value → Except Error String
  | .table _ fields =>
    required "comment_prefix"
      ((fields.lookup "comment_prefix").map (textOf "input.comment_prefix"))
  | .array _ items => itemOf "input" "InputConfig" 1 0 textOf items
  | .scalar _ scalar => .error (.wrongSection scalar.describe "InputConfig")

/-- The format and the shape flag in the section on output. A field that is there
and wrong is told before one that is missing. -/
def outputOf : Value → Except Error (String × Bool)
  | .table _ fields => do
    let format ← (fields.lookup "format").mapM (textOf "output.format")
    let shape ← (fields.lookup "shape").mapM (boolOf "output.shape")
    pure (← required "format" (format.map .ok), ← required "shape" (shape.map .ok))
  | .array _ items => do
    let format ← itemOf "output" "OutputConfig" 2 0 textOf items
    let shape ← itemOf "output" "OutputConfig" 2 1 boolOf items
    pure (format, shape)
  | .scalar _ scalar => .error (.wrongSection scalar.describe "OutputConfig")

/-- The settings in a tree of values. -/
def ofValue (root : Value) : Except Error Settings := do
  let commentMark ← required "input" ((root.field? "input").map inputOf)
  let (format, shape) ← required "output" ((root.field? "output").map outputOf)
  pure ⟨commentMark, format, shape⟩

end Settings

end CallSig
