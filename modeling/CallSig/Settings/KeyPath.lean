import CallSig.Settings.Error
import CallSig.Settings.Value

/-!
# Paths to settings

A path names a place in the tree of settings: a word, then words after a dot and
places in a list in square brackets, as in `output.format` or `list[-1].name`.
Words have ASCII letters, digits, spaces, underscores and hyphens. Setting a
value at a path makes the tables and lists on the way that are not there, in
place of whatever stood there. A list gets as long as the place in it says; where
there is no room for such a list the loading is broken off.
-/

namespace CallSig.Settings

/-- One step of a path. -/
inductive Step where
  | field (name : String)
  | item (place : Int)
  deriving Repr, DecidableEq

/-- Whether there is room for a list that has the place of the step. -/
def Step.hasRoom (room : Nat) : Step → Bool
  | .field _ => true
  | .item place => (if 0 ≤ place then place.toNat + 1 else (-place).toNat) ≤ room

/-- A path of at least one step. -/
abbrev KeyPath := List Step

namespace KeyPath

def isWordChar (c : Char) : Bool :=
  c.isAlphanum || c = ' ' || c = '_' || c = '-'

def isBlank (c : Char) : Bool :=
  c = ' ' || c = '\t'

def isDigit (c : Char) : Bool :=
  '0' ≤ c && c ≤ '9'

/-- Reads a word. -/
def word? (text : List Char) : Option (Step × List Char) :=
  match text.takeWhile isWordChar with
  | [] => none
  | word => some (.field (String.ofList word), text.dropWhile isWordChar)

/-- Reads a whole number that 64 bits can hold. -/
def place? (text : List Char) : Option (Int × List Char) :=
  let (negative, digits) := match text with
    | '-' :: rest => (true, rest)
    | rest => (false, rest)
  match digits.takeWhile isDigit with
  | [] => none
  | run =>
    let size : Int := run.foldl (fun n c => n * 10 + (c.toNat - 48)) 0
    let place := if negative then -size else size
    if -(Decimal.twoPow 63 : Int) ≤ place && place < Decimal.twoPow 63 then
      some (place, digits.dropWhile isDigit)
    else none

/-- Reads a place in a list from the text after its bracket. -/
def item? (text : List Char) : Option (Step × List Char) := do
  let (place, rest) ← place? (text.dropWhile isBlank)
  match rest.dropWhile isBlank with
  | ']' :: after => pure (.item place, after)
  | _ => none

/-- Reads the steps after the first; `fuel` bounds their number. -/
def steps? : Nat → List Char → Option (List Step)
  | _, [] => some []
  | 0, _ => none
  | fuel + 1, c :: rest => do
    let (step, rest) ← if c = '.' then word? rest else if c = '[' then item? rest else none
    pure (step :: (← steps? fuel rest))

/-- The path that a text writes. -/
def parse? (text : String) : Option KeyPath := do
  let (first, rest) ← word? text.toList
  pure (first :: (← steps? rest.length rest))

/-- The tree with a value set at a path. -/
def set : KeyPath → Value → Value → Value
  | [], _, value => value
  | [.field name], root, value =>
    root.withField (foldName name) (Value.merged (root.field? (foldName name)) value)
  | [.item place], root, value => root.withItem place fun _ => value
  | .field name :: rest, root, value =>
    let inner := (root.field? (foldName name)).getD (.byHand .nil)
    root.withField (foldName name) (set rest inner value)
  | .item place :: rest, root, value => root.withItem place fun inner => set rest inner value

/-- The tree with a value set at a path, if there is room for the lists of the path. -/
def setWithin (room : Nat) (path : KeyPath) (root value : Value) : Except Error Value :=
  if path.all (Step.hasRoom room) then .ok (path.set root value) else .error .noRoom

end KeyPath

end CallSig.Settings
