import CallSig.Json.Basic
import CallSig.Yaml.Style

/-!
# Values as YAML

Values are written in block style. The items of a list stand at the column of
its key, the fields of an object two columns deeper than theirs, and every value
ends its line. An empty container is written in brackets.

A literal block is indented two columns deeper than its key. Its head says
whether the first line starts with blanks of its own and what the line ends at
the end of the text are. The line separators beyond ASCII are written as they
are; since they end a line too, the text after them is indented again.
-/

namespace CallSig.Yaml

/-- The blanks in front of a column. -/
def indent (column : Nat) : List Char :=
  List.replicate column ' '

/-- A text that may hold line ends; a character that starts a line comes after
the indentation. `fresh` says that a line has just ended. -/
def writeLines (column : Nat) (writeChar : Char → List Char) : Bool → List Char → List Char
  | _, [] => []
  | fresh, c :: rest =>
    if isBreak c then c :: writeLines column writeChar true rest
    else
      (if fresh then indent column else []) ++ writeChar c ++
        writeLines column writeChar false rest

/-- Whether the text ends its last line. -/
def endsInBreak (text : List Char) : Bool :=
  text.getLast?.any isBreak

/-- A text in single quotes, with quotes doubled. -/
def writeSingle (column : Nat) (text : List Char) : List Char :=
  let double (c : Char) : List Char := if c = '\x27' then ['\x27', '\x27'] else [c]
  '\x27' :: writeLines column double false text ++
    (if endsInBreak text then indent column else []) ++ ['\x27']

/-- The escape of a character, which has a letter of its own or is written by
its code point. -/
def escape (c : Char) : List Char :=
  match c with
  | '\x00' => ['0']
  | '\x07' => ['a']
  | '\x08' => ['b']
  | '\t' => ['t']
  | '\n' => ['n']
  | '\x0b' => ['v']
  | '\x0c' => ['f']
  | '\r' => ['r']
  | '\x1b' => ['e']
  | '\x22' => ['\x22']
  | '\\' => ['\\']
  | '\x85' => ['N']
  | '\u2028' => ['L']
  | '\u2029' => ['P']
  | c =>
    if c.toNat ≤ 0xFF then 'x' :: Text.hexPadded Text.upperHexDigit 2 c.toNat
    else if c.toNat ≤ 0xFFFF then 'u' :: Text.hexPadded Text.upperHexDigit 4 c.toNat
    else 'U' :: Text.hexPadded Text.upperHexDigit 8 c.toNat

/-- A character in double quotes. -/
def writeDoubleChar (c : Char) : List Char :=
  if isSpecial c || isBreak c || c = '\x22' || c = '\\' then '\\' :: escape c else [c]

/-- A text in double quotes, with escapes. -/
def writeDouble (text : List Char) : List Char :=
  '\x22' :: text.flatMap writeDoubleChar ++ ['\x22']

/-- What the head of a literal block says of the start of the text. -/
def leadingHint (text : List Char) : List Char :=
  if text.head?.any fun c => c = ' ' || isBreak c then ['2'] else []

/-- What the head of a literal block says of the end of the text. -/
def trailingHint (text : List Char) : List Char :=
  match text.reverse with
  | [] => ['-']
  | last :: before =>
    if !isBreak last then ['-']
    else if before.head?.all isBreak then ['+']
    else []

/-- A text as a literal block, up to the end of its last line. -/
def writeLiteral (column : Nat) (text : List Char) : List Char :=
  '|' :: leadingHint text ++ trailingHint text ++ '\n' ::
    writeLines column (fun c => [c]) true text ++ (if endsInBreak text then [] else ['\n'])

/-- A text in its style, up to the end of its line; further lines are indented
to the column. -/
def writeScalar (column : Nat) (text : List Char) : List Char :=
  match styleOf text with
  | .plain => text ++ ['\n']
  | .single => writeSingle column text ++ ['\n']
  | .double => writeDouble text ++ ['\n']
  | .literal => writeLiteral column text

mutual

/-- A value at a column, where its first line already starts. -/
def writeBlock (column : Nat) : Json → List Char
  | .bool value => Json.writeBool value ++ ['\n']
  | .string text => writeScalar column text.toList
  | .array [] => ['[', ']', '\n']
  | .array (item :: rest) =>
    '-' :: ' ' :: writeBlock (column + 2) item ++ writeItems column rest
  | .object [] => ['{', '}', '\n']
  | .object ((key, value) :: rest) =>
    key.toList ++ ':' :: writeUnder column value ++ writeFields column rest

/-- The value of a key at a column. -/
def writeUnder (column : Nat) : Json → List Char
  | .bool value => ' ' :: Json.writeBool value ++ ['\n']
  | .string text => ' ' :: writeScalar (column + 2) text.toList
  | .array [] => [' ', '[', ']', '\n']
  | .array (item :: rest) =>
    '\n' :: indent column ++ '-' :: ' ' :: writeBlock (column + 2) item ++
      writeItems column rest
  | .object [] => [' ', '{', '}', '\n']
  | .object ((key, value) :: rest) =>
    '\n' :: indent (column + 2) ++ key.toList ++ ':' :: writeUnder (column + 2) value ++
      writeFields (column + 2) rest

/-- Items of a list after the first. -/
def writeItems (column : Nat) : List Json → List Char
  | [] => []
  | item :: rest =>
    indent column ++ '-' :: ' ' :: writeBlock (column + 2) item ++ writeItems column rest

/-- Fields of an object after the first. -/
def writeFields (column : Nat) : List (String × Json) → List Char
  | [] => []
  | (key, value) :: rest =>
    indent column ++ key.toList ++ ':' :: writeUnder column value ++ writeFields column rest

end

/-- The value as a YAML text. -/
def render (value : Json) : String :=
  String.ofList (writeBlock 0 value)

end CallSig.Yaml
