import CallSig.Text.Hex

/-!
# JSON values and how they are written

`Json` has the values that reports are made of: strings, booleans, arrays and
objects whose fields keep their order. `Json.write` prints one in a `Style`;
`compact` has no blanks at all and `pretty` puts every item on a line of its own,
two spaces deeper than its container. An empty container has no lines in either.

In strings only the quote, the backslash and the control characters below the
space are escaped; five of those have short escapes.
-/

namespace CallSig

/-- A JSON value as it is written. -/
inductive Json where
  | bool (value : Bool)
  | string (text : String)
  | array (items : List Json)
  | object (fields : List (String × Json))
  deriving Repr, Inhabited

namespace Json

/-- The blanks that a printed value has. -/
structure Style where
  /-- What stands in front of an item at this depth, and of the close of its
  container one depth less. -/
  gap : Nat → List Char
  /-- What stands between a key and its value. -/
  colon : List Char

/-- The style without blanks. -/
def Style.compact : Style :=
  ⟨fun _ => [], [':']⟩

/-- The style with a line for every item. -/
def Style.pretty : Style :=
  ⟨fun depth => '\n' :: List.replicate (2 * depth) ' ', [':', ' ']⟩

/-- A character as it stands in a string. -/
def escapeChar (c : Char) : List Char :=
  if c = '\x22' then ['\\', '\x22']
  else if c = '\\' then ['\\', '\\']
  else if c = '\x08' then ['\\', 'b']
  else if c = '\x0c' then ['\\', 'f']
  else if c = '\n' then ['\\', 'n']
  else if c = '\r' then ['\\', 'r']
  else if c = '\t' then ['\\', 't']
  else if c.toNat < 0x20 then ['\\', 'u'] ++ Text.hexPadded Text.lowerHexDigit 4 c.toNat
  else [c]

/-- A text between quotes, with escapes. -/
def writeString (text : String) : List Char :=
  '\x22' :: text.toList.flatMap escapeChar ++ ['\x22']

def writeBool : Bool → List Char
  | true => ['t', 'r', 'u', 'e']
  | false => ['f', 'a', 'l', 's', 'e']

mutual

/-- The value in a style, inside `depth` containers. -/
def write (style : Style) (depth : Nat) : Json → List Char
  | .bool value => writeBool value
  | .string text => writeString text
  | .array [] => ['[', ']']
  | .array (item :: rest) =>
    '[' :: style.gap (depth + 1) ++ write style (depth + 1) item ++
      writeItems style (depth + 1) rest ++ style.gap depth ++ [']']
  | .object [] => ['{', '}']
  | .object ((key, value) :: rest) =>
    '{' :: style.gap (depth + 1) ++ writeString key ++ style.colon ++
      write style (depth + 1) value ++ writeFields style (depth + 1) rest ++
      style.gap depth ++ ['}']

/-- Items of an array after the first. -/
def writeItems (style : Style) (depth : Nat) : List Json → List Char
  | [] => []
  | item :: rest =>
    ',' :: style.gap depth ++ write style depth item ++ writeItems style depth rest

/-- Fields of an object after the first. -/
def writeFields (style : Style) (depth : Nat) : List (String × Json) → List Char
  | [] => []
  | (key, value) :: rest =>
    ',' :: style.gap depth ++ writeString key ++ style.colon ++ write style depth value ++
      writeFields style depth rest

end

/-- The value without blanks. -/
def compact (value : Json) : String :=
  String.ofList (write .compact 0 value)

/-- The value with a line for every item. -/
def pretty (value : Json) : String :=
  String.ofList (write .pretty 0 value)

/-- A field that is written only when it has a value. -/
def field? (key : String) (value : Option Json) : List (String × Json) :=
  (value.map fun present => (key, present)).toList

end Json

end CallSig
