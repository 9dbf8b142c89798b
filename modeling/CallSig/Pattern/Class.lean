import CallSig.Pattern.Escape

/-!
# Classes of characters in brackets

A class lists characters, ranges, escapes and further classes; `&&`, `--` and `~~`
join what stands before them to what follows, from the left. A caret at the start
takes all other characters. A hyphen counts as itself at the start and before the
end, and a closing bracket does so at the start.

Case cannot be ignored in classes of code points. A class of octets holds ASCII
characters only.
-/

namespace CallSig.Pattern

/-- The marks between the operands of a class. -/
inductive Operator where
  | inter
  | diff
  | symmDiff
  deriving Repr, DecidableEq

def Operator.apply : Operator → CharSet → CharSet → CharSet
  | inter, first, second => first.inter second
  | diff, first, second => first.diff second
  | symmDiff, first, second => first.symmDiff second

/-- The set without regard to case, where the flags ask for that. -/
def Flags.fold (flags : Flags) (set : CharSet) : CharSet :=
  if flags.folded then set.folded else set

/-- An operator and its first operand, of which the second is being read. -/
abbrev Pending := Option (Operator × CharSet)

/-- What the class holds once its last operand is complete. -/
def Pending.complete (pending : Pending) (flags : Flags) (last : CharSet) : CharSet :=
  match pending with
  | none => last
  | some (operator, first) => operator.apply (flags.fold first) (flags.fold last)

/-- The class of a set, or of all other characters, if there can be such a class. -/
def classOf? (flags : Flags) (negated : Bool) (set : CharSet) : Option CharSet :=
  let folded := flags.fold set
  let whole := if negated then folded.complement else folded
  if flags.wide then (if flags.folded then none else some whole)
  else if whole.holds '\u0080' then none
  else some whole

/-- Reads a class with a name from the text after its bracket. -/
def readNamed? (flags : Flags) : List Char → Option (Option CharSet × List Char)
  | ':' :: rest =>
    let (negated, rest) := match rest with
      | '^' :: rest => (true, rest)
      | rest => (false, rest)
    match rest.dropWhile (· != ':') with
    | ':' :: ']' :: after =>
      (CharSet.named.lookup (String.ofList (rest.takeWhile (· != ':')))).map fun set =>
        (classOf? flags negated set, after)
    | _ => none
  | _ => none

/-! ## Members -/

/-- Reads a character or an escape. -/
def readMember? (flags : Flags) : List Char → Option (Atom × List Char)
  | [] => none
  | '\\' :: rest => readEscape? flags rest
  | c :: rest => some (.literal c, rest)

/-- Whether the character may be in a class. -/
def Flags.allows (flags : Flags) (c : Char) : Bool :=
  flags.wide || isAscii c

/-- The set that a member is. -/
def Atom.members? (flags : Flags) : Atom → Option CharSet
  | literal c => if flags.allows c then some (.singleton c) else none
  | set chars => some chars
  | place _ => none

/-- The set that a range from one member to another is. -/
def Atom.interval? (flags : Flags) : Atom → Atom → Option CharSet
  | literal first, literal last =>
    if first ≤ last && flags.allows first && flags.allows last then some (.interval first last)
    else none
  | _, _ => none

/-- Reads a member or a range of a class. -/
def readRange? (flags : Flags) (text : List Char) : Option (CharSet × List Char) := do
  let (first, rest) ← readMember? flags text
  match flags.skip rest with
  | [] => none
  | '-' :: more =>
    let next := (flags.skip more).head?
    if next = some ']' || next = some '-' then pure (← first.members? flags, '-' :: more)
    else
      let (last, after) ← readMember? flags (flags.skip more)
      pure (← first.interval? flags last, after)
  | rest => pure (← first.members? flags, rest)

/-- The characters that count as themselves at the start of a class. -/
def readStart (flags : Flags) (text : List Char) : CharSet × List Char :=
  match flags.takeRun (· = '-') text.length text with
  | ([], ']' :: rest) => (.singleton ']', rest)
  | ([], text) => (.empty, text)
  | (_ :: _, rest) => (.singleton '-', rest)

/-! ## Classes -/

mutual

/-- Reads a class from the text after its bracket; `fuel` bounds the number of its
members. -/
def readClass? : Nat → Flags → List Char → Option (CharSet × List Char)
  | 0, _, _ => none
  | fuel + 1, flags, text => do
    let (negated, inner) := match flags.skip text with
      | '^' :: rest => (true, flags.skip rest)
      | rest => (false, rest)
    let (start, inner) := readStart flags inner
    let (set, after) ← readMembers? fuel flags none start inner
    pure (← classOf? flags negated set, after)

/-- Reads the members of a class after those that are in a set already. -/
def readMembers? : Nat → Flags → Pending → CharSet → List Char → Option (CharSet × List Char)
  | 0, _, _, _, _ => none
  | fuel + 1, flags, pending, members, text =>
    let operand (operator : Operator) (rest : List Char) : Option (CharSet × List Char) :=
      readMembers? fuel flags (some (operator, pending.complete flags members)) .empty rest
    match flags.skip text with
    | ']' :: after => some (pending.complete flags members, after)
    | '&' :: '&' :: rest => operand .inter rest
    | '-' :: '-' :: rest => operand .diff rest
    | '~' :: '~' :: rest => operand .symmDiff rest
    | '[' :: rest => do
      let (inner, after) ← match readNamed? flags rest with
        | some (named?, after) => named?.map fun set => (set, after)
        | none => readClass? fuel flags rest
      readMembers? fuel flags pending (members.union inner) after
    | text => do
      let (range, after) ← readRange? flags text
      readMembers? fuel flags pending (members.union range) after

end

end CallSig.Pattern
