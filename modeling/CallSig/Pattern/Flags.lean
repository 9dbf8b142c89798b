import CallSig.Text.Alphabetic
import CallSig.Text.Blank

/-!
# Flags of a pattern

Flags change how the rest of a group is read. They are written as letters between
`(?` and `)` or `:`; those behind a hyphen are switched off. While the pattern is
`spaced`, blanks and comments may stand between its pieces, and a comment goes
from `#` to the end of its line.
-/

namespace CallSig.Pattern

/-- How a piece of a pattern is read. -/
structure Flags where
  /-- `i`: the case of letters does not matter. -/
  folded : Bool
  /-- `m`: the ends of lines count as ends of the text. -/
  byLine : Bool
  /-- `s`: a dot stands for line ends as well. -/
  dotAll : Bool
  /-- `R`: a carriage return ends a line too. -/
  anyLineEnd : Bool
  /-- `u`: characters are code points; otherwise they are octets, and nothing may
  match a part of a character. -/
  wide : Bool
  /-- `x`: blanks and comments are passed over. -/
  spaced : Bool
  deriving Repr, DecidableEq

namespace Flags

/-- The flags at the start of a pattern. -/
def initial : Flags :=
  ⟨false, false, false, false, true, false⟩

/-- All letters of flags; `U` says which of several matches is preferred. -/
def letters : List Char :=
  ['i', 'm', 's', 'R', 'u', 'x', 'U']

/-- Whether flags may be written so: known letters and at most one hyphen, none
of them twice, and the hyphen not at the end. -/
def areWritten (text : List Char) : Bool :=
  text.all (fun c => c = '-' || letters.contains c) && text.Nodup && text.getLast? != some '-'

/-- A flag after letters that may switch it on or off. -/
def switched (text : List Char) (letter : Char) (former : Bool) : Bool :=
  if (text.takeWhile (· != '-')).contains letter then true
  else if text.contains letter then false
  else former

/-- The flags after letters that switch some of them. -/
def change (flags : Flags) (text : List Char) : Flags :=
  ⟨switched text 'i' flags.folded, switched text 'm' flags.byLine, switched text 's' flags.dotAll,
    switched text 'R' flags.anyLineEnd, switched text 'u' flags.wide, switched text 'x' flags.spaced⟩

/-- The flags that letters up to a colon or a closing bracket give, if they are
written well, and the text from that character on. -/
def read? (flags : Flags) (text : List Char) : Option (Flags × List Char) :=
  let within (c : Char) : Bool := c != ':' && c != ')'
  let written := text.takeWhile within
  if areWritten written then some (flags.change written, text.dropWhile within) else none

/-! ## Blanks and comments -/

/-- The text without the blanks and comments at its start. -/
def skipComments : Bool → List Char → List Char
  | _, [] => []
  | true, c :: rest => skipComments (c != '\n') rest
  | false, c :: rest =>
    if Text.isBlank c then skipComments false rest
    else if c = '#' then skipComments true rest
    else c :: rest

/-- The text without what may be passed over at its start. -/
def skip (flags : Flags) (text : List Char) : List Char :=
  if flags.spaced then skipComments false text else text

/-- Takes up to `limit` characters that pass a test, together with what may be
passed over after each. -/
def takeRun (flags : Flags) (test : Char → Bool) : Nat → List Char → List Char × List Char
  | limit + 1, c :: rest =>
    if test c then
      let (run, after) := takeRun flags test limit (flags.skip rest)
      (c :: run, after)
    else ([], c :: rest)
  | _, text => ([], text)

end Flags

end CallSig.Pattern
