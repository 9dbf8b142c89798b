import CallSig.Pattern.Basic
import CallSig.Pattern.Flags
import CallSig.Text.Hex

/-!
# Escapes in patterns

A backslash makes a mark stand for itself, and gives a meaning to some letters: a
character, a set of characters, or a condition on a place. Sets and edges of words
are for octets only, since they would need the properties of all characters
otherwise. Octets beyond ASCII are no characters, so that no escape may name one.
-/

namespace CallSig.Pattern

/-- The meaning of an escape, or of a single character. -/
inductive Atom where
  | literal (c : Char)
  | set (chars : CharSet)
  | place (condition : Condition)
  deriving Repr, DecidableEq

/-- Whether the character is one octet. -/
def isAscii (c : Char) : Bool :=
  c.toNat < 0x80

/-- Whether a backslash makes the character stand for itself. -/
def isEscapable (c : Char) : Bool :=
  isAscii c && !c.isAlphanum && c != '<' && c != '>'

/-- The letters that stand for a character. -/
def letterEscapes : List (Char × Char) :=
  [('a', '\x07'), ('f', '\x0c'), ('t', '\t'), ('n', '\n'), ('r', '\r'), ('v', '\x0b')]

/-- The letters that stand for a set of octets. -/
def setEscapes : List (Char × CharSet) :=
  [('d', .digits), ('s', .spaces), ('w', .wordChars)]

/-- The conditions that a word in braces says. -/
def wordConditions : List (String × Condition) :=
  [("start", .wordStart), ("end", .wordEnd), ("start-half", .wordStartHalf),
    ("end-half", .wordEndHalf)]

/-! ## Code points -/

/-- The letters in front of a code point, and the number of its digits when they
stand in no braces. -/
def codeWidths : List (Char × Nat) :=
  [('x', 2), ('u', 4), ('U', 8)]

def isHexDigit (c : Char) : Bool :=
  (Text.hexValue? c).isSome

/-- The character that hexadecimal digits give the code point of. -/
def ofCodePoint? (digits : List Char) : Option Char :=
  let code := digits.foldl (fun n c => n * 16 + (Text.hexValue? c).getD 0) 0
  if digits.isEmpty then none
  else if code < 0xD800 || (0xE000 ≤ code && code < 0x110000) then some (Char.ofNat code)
  else none

/-- Reads a code point from the text after its letter. -/
def readCodePoint? (flags : Flags) (letter : Char) (width : Nat) (text : List Char) :
    Option (Char × List Char) :=
  match flags.skip text with
  | '{' :: rest => do
    let (digits, after) := flags.takeRun isHexDigit rest.length (flags.skip rest)
    match after with
    | '}' :: after => pure (← ofCodePoint? digits, after)
    | _ => none
  | text => do
    let (digits, after) := flags.takeRun isHexDigit width text
    let c ← ofCodePoint? digits
    if digits.length < width || (letter = 'x' && !flags.wide && !isAscii c) then none
    else pure (c, after)

/-! ## Edges of words -/

/-- Reads the condition of a `b`, which braces with a word in them may refine. -/
def readWordEdge? (flags : Flags) (text : List Char) : Option (Condition × List Char) :=
  let isWordChar (c : Char) : Bool := c.isAlpha || c = '-'
  match text with
  | '{' :: rest =>
    match flags.skip rest with
    | [] => none
    | c :: inner =>
      if isWordChar c then do
        let (word, after) := flags.takeRun isWordChar text.length (c :: inner)
        match after with
        | '}' :: after => pure (← wordConditions.lookup (String.ofList word), after)
        | _ => none
      else some (.wordEdge, text)
  | text => some (.wordEdge, text)

/-- Reads a condition on the edges of words from its letter on. -/
def readEdge? (flags : Flags) (letter : Char) (text : List Char) :
    Option (Condition × List Char) :=
  if letter = 'b' then readWordEdge? flags text
  else if letter = 'B' then some (.noWordEdge, text)
  else if letter = '<' then some (.wordStart, text)
  else if letter = '>' then some (.wordEnd, text)
  else none

/-! ## All escapes -/

/-- Reads an escape from the text after its backslash. -/
def readEscape? (flags : Flags) : List Char → Option (Atom × List Char)
  | [] => none
  | c :: rest =>
    if isEscapable c then some (.literal c, rest)
    else
      match letterEscapes.lookup c, codeWidths.lookup c with
      | some meant, _ => some (.literal meant, rest)
      | none, some width => (readCodePoint? flags c width rest).map fun (c, after) =>
        (.literal c, after)
      | none, none =>
        if c = 'A' then some (.place .textStart, rest)
        else if c = 'z' then some (.place .textEnd, rest)
        else if flags.wide then none
        else
          match setEscapes.lookup c with
          | some set => some (.set set, rest)
          | none => (readEdge? flags c rest).map fun (condition, after) =>
            (.place condition, after)

end CallSig.Pattern
