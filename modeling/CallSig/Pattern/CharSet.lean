import CallSig.Text.CodeRange

/-!
# Sets of characters in patterns

A pattern names the characters that may stand at a place by ranges of code points
and by operations on such sets. A `CharSet` keeps the operations as they are
written, and `holds` asks whether a character is in the set.
-/

namespace CallSig.Pattern

/-- A set of characters. -/
inductive CharSet where
  | ranges (table : List Text.CodeRange)
  | union (first second : CharSet)
  | inter (first second : CharSet)
  | complement (set : CharSet)
  /-- The set with the other case of its ASCII letters. -/
  | folded (set : CharSet)
  deriving Repr, DecidableEq

namespace CharSet

def empty : CharSet :=
  .ranges []

def all : CharSet :=
  .ranges [⟨0, 0x10FFFF⟩]

def singleton (c : Char) : CharSet :=
  .ranges [⟨c.toNat, c.toNat⟩]

/-- The characters from one to another, both included. -/
def interval (first last : Char) : CharSet :=
  .ranges [⟨first.toNat, last.toNat⟩]

def diff (first second : CharSet) : CharSet :=
  first.inter second.complement

/-- The characters that are in one of the sets and not in both. -/
def symmDiff (first second : CharSet) : CharSet :=
  (first.diff second).union (second.diff first)

/-- The ASCII letter of the other case; any other character is left as it is. -/
def otherCase (c : Char) : Char :=
  if c.isUpper then c.toLower else c.toUpper

/-- Whether the character is in the set. -/
def holds : CharSet → Char → Bool
  | ranges table, c => Text.covers table c
  | union first second, c => first.holds c || second.holds c
  | inter first second, c => first.holds c && second.holds c
  | complement set, c => !set.holds c
  | folded set, c => set.holds c || set.holds (otherCase c)

/-! ## Sets with a name -/

def digits : CharSet :=
  interval '0' '9'

/-- Letters, digits and the underscore, as far as they are ASCII. -/
def wordChars : CharSet :=
  .ranges [⟨0x30, 0x39⟩, ⟨0x41, 0x5A⟩, ⟨0x5F, 0x5F⟩, ⟨0x61, 0x7A⟩]

/-- Tab, line feed, vertical tab, form feed, carriage return and space. -/
def spaces : CharSet :=
  .ranges [⟨0x9, 0xD⟩, ⟨0x20, 0x20⟩]

/-- The ASCII classes that brackets may name. -/
def named : List (String × CharSet) :=
  [("alnum", .ranges [⟨0x30, 0x39⟩, ⟨0x41, 0x5A⟩, ⟨0x61, 0x7A⟩]),
    ("alpha", .ranges [⟨0x41, 0x5A⟩, ⟨0x61, 0x7A⟩]),
    ("ascii", .ranges [⟨0x0, 0x7F⟩]),
    ("blank", .ranges [⟨0x9, 0x9⟩, ⟨0x20, 0x20⟩]),
    ("cntrl", .ranges [⟨0x0, 0x1F⟩, ⟨0x7F, 0x7F⟩]),
    ("digit", digits),
    ("graph", .ranges [⟨0x21, 0x7E⟩]),
    ("lower", .ranges [⟨0x61, 0x7A⟩]),
    ("print", .ranges [⟨0x20, 0x7E⟩]),
    ("punct", .ranges [⟨0x21, 0x2F⟩, ⟨0x3A, 0x40⟩, ⟨0x5B, 0x60⟩, ⟨0x7B, 0x7E⟩]),
    ("space", spaces),
    ("upper", .ranges [⟨0x41, 0x5A⟩]),
    ("word", wordChars),
    ("xdigit", .ranges [⟨0x30, 0x39⟩, ⟨0x41, 0x46⟩, ⟨0x61, 0x66⟩])]

end CharSet

end CallSig.Pattern
