import CallSig.Pattern.Class

/-!
# Reading patterns

A pattern is written as alternatives between bars; an alternative is a row of
items, each of which may be repeated. An item is a character, a dot, an escape, a
class in brackets, an end of the text or of a line, or a group in parentheses. A
group may have a name, which no other group has, or flags of its own; flags alone
in parentheses hold up to the end of the group around them.

Patterns that look around a place or back to a group, and properties of characters
beyond ASCII, are refused like every text that is no pattern.
-/

namespace CallSig.Pattern

/-- Where the reading of a pattern stands: the flags that hold, and the names of
groups so far. -/
structure Reading where
  flags : Flags
  names : List String
  deriving Repr, DecidableEq

/-! ## Repetitions -/

/-- How often a piece may be repeated. -/
structure Count where
  least : Nat
  most : Option Nat
  deriving Repr, DecidableEq

/-- A count of 32 bits, with blanks around it. -/
def readCount? (flags : Flags) (text : List Char) : Option (Nat × List Char) :=
  match flags.takeRun CharSet.digits.holds text.length (Text.trimStart text) with
  | ([], _) => none
  | (digits, after) =>
    let count := digits.foldl (fun n c => n * 10 + (c.toNat - 48)) 0
    if count ≤ 0xFFFFFFFF then some (count, Text.trimStart after) else none

/-- Reads counts from the text after their brace. -/
def readCounts? (flags : Flags) (text : List Char) : Option (Count × List Char) := do
  let (least, rest) ← readCount? flags (flags.skip text)
  match rest with
  | '}' :: after => pure (⟨least, some least⟩, flags.skip after)
  | ',' :: rest =>
    match flags.skip rest with
    | '}' :: after => pure (⟨least, none⟩, flags.skip after)
    | rest =>
      match ← readCount? flags rest with
      | (most, '}' :: after) =>
        if least ≤ most then pure (⟨least, some most⟩, flags.skip after) else none
      | _ => none
  | _ => none

/-- Whether the mark repeats the item before it. -/
def isRepetition (c : Char) : Bool :=
  c = '?' || c = '*' || c = '+' || c = '{'

/-- Reads how often an item is repeated from the mark on. A question mark after it
says which match is preferred, and makes no difference. -/
def readRepetition? (flags : Flags) (mark : Char) (rest : List Char) :
    Option (Count × List Char) := do
  let (count, after) ←
    if mark = '?' then some (⟨0, some 1⟩, rest)
    else if mark = '*' then some (⟨0, none⟩, rest)
    else if mark = '+' then some (⟨1, none⟩, rest)
    else readCounts? flags rest
  match after with
  | '?' :: after => pure (count, after)
  | after => pure (count, after)

/-! ## Items without a group -/

/-- The pattern of a single character. -/
def literal? (flags : Flags) (c : Char) : Option Pattern :=
  if !flags.folded then some (.char (.singleton c))
  else if flags.wide then none
  else if c.isAlpha then some (.char (.folded (.singleton c)))
  else some (.char (.singleton c))

/-- The pattern of any character, or of any but a line end. -/
def dot? (flags : Flags) : Option Pattern :=
  if !flags.wide then none
  else if flags.dotAll then some (.char .all)
  else if flags.anyLineEnd then
    some (.char (CharSet.complement ((CharSet.singleton '\r').union (.singleton '\n'))))
  else some (.char (CharSet.complement (.singleton '\n')))

/-- The start of the text, or of a line. -/
def startOf (flags : Flags) : Condition :=
  if !flags.byLine then .textStart else if flags.anyLineEnd then .anyLineStart else .lineStart

/-- The end of the text, or of a line. -/
def endOf (flags : Flags) : Condition :=
  if !flags.byLine then .textEnd else if flags.anyLineEnd then .anyLineEnd else .lineEnd

/-- The pattern of an escape. -/
def Atom.pattern? (flags : Flags) : Atom → Option Pattern
  | literal c => literal? flags c
  | set chars => some (.char chars)
  | place condition => some (.place condition)

/-- Reads an item that is no group. -/
def readItem? (flags : Flags) (c : Char) (rest : List Char) : Option (Pattern × List Char) :=
  if c = '[' then
    (readClass? (2 * rest.length + 2) flags rest).map fun (set, after) => (.char set, after)
  else if c = '\\' then do
    let (atom, after) ← readEscape? flags rest
    pure (← atom.pattern? flags, after)
  else if c = '.' then (dot? flags).map fun pattern => (pattern, rest)
  else if c = '^' then some (.place (startOf flags), rest)
  else if c = '$' then some (.place (endOf flags), rest)
  else (literal? flags c).map fun pattern => (pattern, rest)

/-! ## Groups -/

/-- What the start of a group opens. -/
inductive GroupStart where
  /-- Flags alone, which close at once. -/
  | flags (flags : Flags)
  | group (reading : Reading)
  deriving Repr, DecidableEq

/-- Whether the text is the name of a group. -/
def isGroupName (name : List Char) : Bool :=
  let isStart (c : Char) : Bool := c = '_' || Text.isAlphabetic c
  let isPart (c : Char) : Bool :=
    c = '_' || c = '.' || c = '[' || c = ']' || Text.isAlphanumeric c
  match name with
  | [] => false
  | c :: rest => isStart c && rest.all isPart

/-- Reads the name of a group, up to its closing bracket. -/
def readGroupName? (reading : Reading) (text : List Char) : Option (GroupStart × List Char) :=
  let name := text.takeWhile (· != '>')
  match text.dropWhile (· != '>') with
  | _ :: after =>
    if isGroupName name && !reading.names.contains (String.ofList name) then
      some (.group { reading with names := String.ofList name :: reading.names }, after)
    else none
  | [] => none

/-- Reads the start of a group from the text after its parenthesis. -/
def readGroupStart? (reading : Reading) (text : List Char) : Option (GroupStart × List Char) :=
  match text with
  | '?' :: 'P' :: '<' :: rest => readGroupName? reading rest
  | '?' :: '<' :: rest => readGroupName? reading rest
  | '?' :: ')' :: _ => none
  | '?' :: rest => do
    let (flags, rest) ← reading.flags.read? rest
    match rest with
    | ')' :: after => pure (.flags flags, after)
    | _ :: after => pure (.group { reading with flags := flags }, after)
    | [] => none
  | text => some (.group reading, text)

/-! ## Patterns -/

/-- A row of items with one more at its end. -/
def joined (row : Pattern) : Option Pattern → Pattern
  | some item => .seq row item
  | none => row

mutual

/-- Reads alternatives up to the end of the group or of the text. Of the one that
is being read, `row` holds all items but the `last`, which a mark may repeat. -/
def readRow? : Nat → Reading → Pattern → Option Pattern → List Char →
    Option (Pattern × Reading × List Char)
  | 0, _, _, _, _ => none
  | fuel + 1, reading, row, last, text =>
    match reading.flags.skip text with
    | [] => some (joined row last, reading, [])
    | c :: rest =>
      if c = ')' then some (joined row last, reading, c :: rest)
      else if c = '|' then do
        let (others, reading, after) ← readRow? fuel reading .empty none rest
        pure (.either (joined row last) others, reading, after)
      else if c = '(' then do
        let (group, reading, after) ← readGroup? fuel reading rest
        readRow? fuel reading (joined row last) group after
      else if isRepetition c then do
        let (count, after) ← readRepetition? reading.flags c rest
        let repeated := Pattern.repeated (← last) count.least count.most
        readRow? fuel reading row (some repeated) after
      else do
        let (item, after) ← readItem? reading.flags c rest
        readRow? fuel reading (joined row last) (some item) after

/-- Reads a group from the text after its parenthesis; flags alone are no item. -/
def readGroup? : Nat → Reading → List Char → Option (Option Pattern × Reading × List Char)
  | 0, _, _ => none
  | fuel + 1, reading, text => do
    match ← readGroupStart? reading (reading.flags.skip text) with
    | (.flags flags, after) => pure (none, { reading with flags := flags }, after)
    | (.group inner, rest) =>
      match ← readRow? fuel inner .empty none rest with
      | (pattern, inner, ')' :: after) =>
        pure (some pattern, { inner with flags := reading.flags }, after)
      | _ => none

end

/-- The greatest size of a pattern: ten mebibytes hold so many steps. -/
def sizeLimit : Nat := 327680

/-- The pattern that a text writes. Every character takes up to two rounds of the
reader, so twice the length of the text is fuel enough. -/
def ofText? (text : String) : Option Pattern :=
  match readRow? (2 * text.length + 2) ⟨.initial, []⟩ .empty none text.toList with
  | some (pattern, _, []) => if pattern.size ≤ sizeLimit then some pattern else none
  | _ => none

end CallSig.Pattern
