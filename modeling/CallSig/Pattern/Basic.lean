import CallSig.Pattern.CharSet

/-!
# Patterns and where they are found

A `Pattern` describes pieces of a text. Whether a piece occurs in a text is
decided without choosing among the ways to read it: `Places` marks places between
the characters, and `Pattern.ends` takes the places where a piece may start to all
places where it may end. A repetition takes this step as often as it has to, and
no more than there are places: a longer run of steps stays at some place, and can
be shortened there.
-/

namespace CallSig

namespace Pattern

/-- A place in a text: the character before it and the one after it. -/
structure Gap where
  before : Option Char
  after : Option Char
  deriving Repr, DecidableEq

/-- What may be asked of a place. -/
inductive Condition where
  | textStart
  | textEnd
  /-- After a line feed. -/
  | lineStart
  /-- Before a line feed. -/
  | lineEnd
  /-- After a line feed, or a carriage return that no line feed follows. -/
  | anyLineStart
  /-- Before a carriage return, or a line feed that follows none. -/
  | anyLineEnd
  | wordEdge
  | noWordEdge
  | wordStart
  | wordEnd
  /-- After no character of a word. -/
  | wordStartHalf
  /-- Before no character of a word. -/
  | wordEndHalf
  deriving Repr, DecidableEq

/-- Whether a character of a word stands here. -/
def isInWord (c : Option Char) : Bool :=
  c.any CharSet.wordChars.holds

/-- Whether the place is as the condition asks. -/
def Condition.holds (condition : Condition) (gap : Gap) : Bool :=
  match condition with
  | textStart => gap.before.isNone
  | textEnd => gap.after.isNone
  | lineStart => gap.before.all (· = '\n')
  | lineEnd => gap.after.all (· = '\n')
  | anyLineStart =>
    gap.before.all fun c => c = '\n' || (c = '\r' && gap.after != some '\n')
  | anyLineEnd =>
    gap.after.all fun c => c = '\r' || (c = '\n' && gap.before != some '\r')
  | wordEdge => isInWord gap.before != isInWord gap.after
  | noWordEdge => isInWord gap.before == isInWord gap.after
  | wordStart => !isInWord gap.before && isInWord gap.after
  | wordEnd => isInWord gap.before && !isInWord gap.after
  | wordStartHalf => !isInWord gap.before
  | wordEndHalf => !isInWord gap.after

/-- The places of a text in order, given the character before it. -/
def gapsFrom (before : Option Char) : List Char → List Gap
  | [] => [⟨before, none⟩]
  | c :: rest => ⟨before, some c⟩ :: gapsFrom (some c) rest

/-- A mark for each place of a text. -/
abbrev Places := List Bool

/-- Every place of a text. -/
def Places.all (text : List Char) : Places :=
  List.replicate (text.length + 1) true

/-- The places that are marked in one of two lists. -/
def Places.union (first second : Places) : Places :=
  List.zipWith (· || ·) first second

/-- The places after exactly `count` steps. Once a step changes nothing, no more
are taken. -/
def repeatStep (step : Places → Places) : Nat → Places → Places
  | 0, places => places
  | count + 1, places =>
    let next := step places
    if next = places then places else repeatStep step count next

/-- The places after up to `count` steps. -/
def growBy (step : Places → Places) : Nat → Places → Places
  | 0, places => places
  | count + 1, places =>
    let next := places.union (step places)
    if next = places then places else growBy step count next

end Pattern

/-- A description of pieces of text. -/
inductive Pattern where
  | empty
  | char (set : Pattern.CharSet)
  | place (condition : Pattern.Condition)
  | seq (first second : Pattern)
  | either (first second : Pattern)
  /-- At least `least` pieces one after the other, and no more than `most`. -/
  | repeated (body : Pattern) (least : Nat) (most : Option Nat)
  deriving Repr, DecidableEq

namespace Pattern

/-- The places where pieces end that start at one of the given places. -/
def ends (text : List Char) : Pattern → Places → Places
  | empty, starts => starts
  | char set, starts => false :: List.zipWith (fun c start => start && set.holds c) text starts
  | place condition, starts =>
    List.zipWith (fun gap start => start && condition.holds gap) (gapsFrom none text) starts
  | seq first second, starts => second.ends text (first.ends text starts)
  | either first second, starts => (first.ends text starts).union (second.ends text starts)
  | repeated body least most, starts =>
    let limit := text.length + 1
    let more := (most.map (· - least)).getD limit
    growBy (body.ends text) (min more limit) (repeatStep (body.ends text) (min least limit) starts)

/-- Whether a piece occurs somewhere in the text. -/
def occursIn (pattern : Pattern) (text : List Char) : Bool :=
  (pattern.ends text (Places.all text)).any id

/-- The size of a pattern with its repetitions written out. -/
def size : Pattern → Nat
  | empty => 1
  | char _ => 1
  | place _ => 1
  | seq first second => first.size + second.size
  | either first second => first.size + second.size + 1
  | repeated body least most => body.size * (most.getD (max least 1)) + 1

end Pattern

end CallSig
