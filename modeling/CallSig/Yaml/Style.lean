import CallSig.Yaml.Scalar

/-!
# The style of a scalar

A text is written plain if that is safe. One that would be read as something else
or that could be taken for markup is put in single quotes. Text of several lines
is a literal block. Characters that cannot stand in a text, and blanks at places
where a reader would lose them, ask for double quotes and escapes.

The choice is made in two steps: `wish` looks at what the text means, and
`styleOf` gives way where the wished style could not hold the text.
-/

namespace CallSig.Yaml

/-- How a scalar is written. -/
inductive Style where
  | plain
  | single
  | double
  | literal
  deriving Repr, DecidableEq

/-- The characters that end a line. -/
def isBreak (c : Char) : Bool :=
  c = '\n' || c = '\r' || c = '\x85' || c = '\u2028' || c = '\u2029'

/-- A blank, a line end or NUL. -/
def isBlankOrBreak (c : Char) : Bool :=
  c = ' ' || c = '\t' || c = '\x00' || isBreak c

/-- Characters that are never written as they are. -/
def isSpecial (c : Char) : Bool :=
  !(c = '\n' || (0x20 ≤ c.toNat && c.toNat ≤ 0x7E) ||
    (0xA0 ≤ c.toNat && c.toNat != 0xFEFF && c.toNat != 0xFFFE && c.toNat != 0xFFFF))

/-- Characters that mean something at the start of a plain scalar. -/
def indicators : List Char :=
  ['#', ',', '[', ']', '{', '}', '&', '*', '!', '|', '>', '\x27', '\x22', '%', '@', '\x60']

/-- Whether a blank, a line end or the end of the text comes next. -/
def blankNext : List Char → Bool
  | [] => true
  | c :: _ => isBlankOrBreak c

/-- Whether two neighbours in the text satisfy the test. -/
def hasPair (test : Char → Char → Bool) : List Char → Bool
  | a :: b :: rest => test a b || hasPair test (b :: rest)
  | _ => false

/-- Whether a plain scalar could not start like this. -/
def startsAsMarkup : List Char → Bool
  | [] => false
  | c :: rest => indicators.contains c || ((c = '?' || c = ':' || c = '-') && blankNext rest)

/-- Whether a colon ends a word, as a key would. -/
def hasKeyColon : List Char → Bool
  | [] => false
  | c :: rest => (c = ':' && blankNext rest) || hasKeyColon rest

/-- Whether a `#` comes after a blank, as a comment would. -/
def hasComment : List Char → Bool :=
  hasPair fun a b => isBlankOrBreak a && b = '#'

/-- Whether the text starts like the mark between two documents. -/
def startsAsDocument (text : List Char) : Bool :=
  ['-', '-', '-'].isPrefixOf text || ['.', '.', '.'].isPrefixOf text

/-- Whether the text cannot be plain. -/
def refusesPlain (text : List Char) : Bool :=
  startsAsDocument text || startsAsMarkup text || hasKeyColon text || hasComment text ||
    text.head? == some ' ' || text.getLast? == some ' ' || text.any isBreak

def hasBreakBeforeSpace : List Char → Bool :=
  hasPair fun a b => isBreak a && b = ' '

def hasSpaceBeforeBreak : List Char → Bool :=
  hasPair fun a b => a = ' ' && isBreak b

/-- Whether the text needs escapes when it is no literal block. -/
def refusesQuotes (text : List Char) : Bool :=
  hasBreakBeforeSpace text || hasSpaceBeforeBreak text || text.any isSpecial

/-- Whether the text needs escapes instead of a literal block. -/
def refusesLiteral (text : List Char) : Bool :=
  text.getLast? == some ' ' || hasSpaceBeforeBreak text || text.any isSpecial

/-- The style that fits the meaning of the text. -/
def wish (text : List Char) : Style :=
  if text.contains '\n' then .literal
  else if isAmbiguous text then .single
  else .plain

/-- The style in which the text is written. -/
def styleOf (text : List Char) : Style :=
  match wish text with
  | .literal => if refusesLiteral text then .double else .literal
  | .plain =>
    if refusesQuotes text then .double
    else if refusesPlain text then .single
    else .plain
  | _ => if refusesQuotes text then .double else .single

end CallSig.Yaml
