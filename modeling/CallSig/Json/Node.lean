import CallSig.Bracket.Matching
import CallSig.Json.Number
import CallSig.Text.Hex

/-!
# JSON texts read into trees that keep their faults

Somebody who decodes a record reports the first thing that is wrong on the way
through the text, be it a fault of the text or a value of the wrong kind. So a
text is read into a `Node` tree that holds the faults at their places:
everything up to the first one, and the fault there. A fault either makes the
text `invalid` or says that it is `cut` short.

A few texts can be passed over but not used: a string with half a surrogate pair
in it, a number out of range (`Node.unusable`). And what a fault is depends on
who meets it (`Faults`): a number that is cut short counts as cut for one who
wants it and as invalid for one who passes over it.
-/

namespace CallSig.Json

/-- What can be wrong with a text. -/
inductive Fault where
  | invalid
  | cut
  deriving Repr, DecidableEq

/-- A fault as it is for those who may meet it. -/
structure Faults where
  /-- For one who wants a value of whatever kind. -/
  wanted : Fault
  /-- For one who passes over the value. -/
  passed : Fault
  /-- For one who looks for a name, and for nothing else. -/
  named : Fault
  deriving Repr, DecidableEq

/-- A value as it stands in a text, with the first fault in place. -/
inductive Node where
  | null
  | bool (value : Bool)
  | number (value : Number)
  | string (text : String)
  /-- The items, and the fault that stands where a comma or the close is due. -/
  | array (items : List Node) (fault : Option Fault)
  /-- The fields, keys first, and the fault where a comma or the close is due. -/
  | object (fields : List (Node × Node)) (fault : Option Fault)
  /-- An object whose first key is no string. -/
  | keyless
  | unusable
  | broken (faults : Faults)
  deriving Inhabited

/-- A fault that is the same for everyone. -/
def Node.faulty (fault : Fault) : Node :=
  .broken ⟨fault, fault, fault⟩

/-! ## Pieces of a text -/

def isSpace (c : Char) : Bool :=
  c = ' ' || c = '\n' || c = '\t' || c = '\r'

def isDigit (c : Char) : Bool :=
  '0' ≤ c && c ≤ '9'

def skipSpace (text : List Char) : List Char :=
  text.dropWhile isSpace

/-- Reads the rest of a literal word. -/
def readWord (value : Node) : List Char → List Char → Node × List Char
  | [], rest => (value, rest)
  | _ :: _, [] => (.broken ⟨.cut, .cut, .invalid⟩, [])
  | w :: word, c :: rest =>
    if w = c then readWord value word rest else (.faulty .invalid, [])

/-! ## Strings -/

/-- The code unit written by four hexadecimal digits, and the text after them.
Fewer than four octets mean that the text is cut. -/
def readUnit (text : List Char) : Except Fault (Nat × List Char) :=
  match text with
  | a :: b :: c :: d :: rest =>
    match Text.hexValue? a, Text.hexValue? b, Text.hexValue? c, Text.hexValue? d with
    | some a, some b, some c, some d => .ok (((a * 16 + b) * 16 + c) * 16 + d, rest)
    | _, _, _, _ => .error .invalid
  | _ => .error (if Bracket.utf8Length text < 4 then .cut else .invalid)

/-- What a string contributes up to some place: the characters in reverse, or
nothing after half a surrogate pair. -/
abbrev Gathered := Option (List Char)

def Gathered.push (gathered : Gathered) (c : Char) : Gathered :=
  gathered.map (c :: ·)

/-- The fault of a string that ends badly. Half a surrogate pair before that
place makes it invalid for one who wants it. -/
def Gathered.fault (gathered : Gathered) (fault : Fault) : Node :=
  let wanted := if gathered.isSome then fault else .invalid
  .broken ⟨wanted, fault, wanted⟩

/-- The string, once its closing quote is read. -/
def Gathered.close (gathered : Gathered) : Node :=
  match gathered with
  | some reversed => .string (String.ofList reversed.reverse)
  | none => .unusable

def isLowSurrogate (unit : Nat) : Bool :=
  0xDC00 ≤ unit && unit < 0xE000

def isHighSurrogate (unit : Nat) : Bool :=
  0xD800 ≤ unit && unit < 0xDC00

/-- The character of a surrogate pair. -/
def ofSurrogates (high low : Nat) : Char :=
  Char.ofNat (0x10000 + (high - 0xD800) * 0x400 + (low - 0xDC00))

/-- The character of a short escape. -/
def shortEscape? (c : Char) : Option Char :=
  if c = '\x22' || c = '\\' || c = '/' then some c
  else if c = 'b' then some '\x08'
  else if c = 'f' then some '\x0c'
  else if c = 'n' then some '\n'
  else if c = 'r' then some '\r'
  else if c = 't' then some '\t'
  else none

/-- Where the reading of a string stands between two characters: `high` is a
leading surrogate whose partner is due. -/
structure StringState where
  gathered : Gathered
  high : Option Nat

/-- The state when something other than the partner comes. -/
def StringState.settle (state : StringState) : Gathered :=
  match state.high with
  | some _ => none
  | none => state.gathered

/-- The state after a code unit. -/
def StringState.unit (state : StringState) (unit : Nat) : StringState :=
  match state.high with
  | some high =>
    if isLowSurrogate unit then ⟨state.gathered.push (ofSurrogates high unit), none⟩
    else ⟨none, none⟩
  | none =>
    if isHighSurrogate unit then ⟨state.gathered, some unit⟩
    else if isLowSurrogate unit then ⟨none, none⟩
    else ⟨state.gathered.push (Char.ofNat unit), none⟩

/-- Reads a string from the text after its opening quote. Every round uses up a
character, so the length of the text is fuel enough. -/
def readStringFrom : Nat → StringState → List Char → Node × List Char
  | 0, state, _ => (state.gathered.fault .cut, [])
  | _ + 1, state, [] => (state.gathered.fault .cut, [])
  | fuel + 1, state, c :: rest =>
    if c = '\x22' then (state.settle.close, rest)
    else if c = '\\' then
      match rest with
      | [] => (state.gathered.fault .cut, [])
      | e :: rest =>
        if e = 'u' then
          match readUnit rest with
          | .ok (unit, rest) => readStringFrom fuel (state.unit unit) rest
          | .error fault => (state.gathered.fault fault, [])
        else
          match shortEscape? e with
          | some c => readStringFrom fuel ⟨state.settle.push c, none⟩ rest
          | none => (state.settle.fault .invalid, [])
    else if c.toNat < 0x20 then (state.settle.fault .invalid, [])
    else readStringFrom fuel ⟨state.settle.push c, none⟩ rest

/-- Reads a string from the text after its opening quote. -/
def readString (text : List Char) : Node × List Char :=
  readStringFrom (text.length + 1) ⟨some [], none⟩ text

/-! ## Numbers -/

/-- A number that ends where a digit is due. -/
def missingDigit (text : List Char) : Node × List Char :=
  if text.isEmpty then (.broken ⟨.cut, .invalid, .invalid⟩, []) else (.faulty .invalid, [])

/-- A number in its parts, or `unusable` when it is out of range. -/
def finishNumber (negative : Bool) (whole : List Char) (fraction : Option (List Char))
    (exponent : Option Int) (rest : List Char) : Node × List Char :=
  match Number.ofParts? negative whole fraction exponent with
  | some value => (.number value, rest)
  | none => (.unusable, rest)

/-- The number that digits write. -/
def ofDigits (digits : List Char) : Nat :=
  digits.foldl (fun n c => n * 10 + digitValue c) 0

/-- Reads the digits of an exponent. -/
def readExponent (negative : Bool) (whole : List Char) (fraction : Option (List Char))
    (down : Bool) (text : List Char) : Node × List Char :=
  match text.takeWhile isDigit with
  | [] => missingDigit text
  | digits =>
    let size : Int := ofDigits digits
    finishNumber negative whole fraction (some (if down then -size else size))
      (text.dropWhile isDigit)

/-- Reads what may follow the whole and the fractional part. -/
def readAfterFraction (negative : Bool) (whole : List Char) (fraction : Option (List Char)) :
    List Char → Node × List Char
  | [] => finishNumber negative whole fraction none []
  | c :: rest =>
    if c = 'e' || c = 'E' then
      match rest with
      | '+' :: rest => readExponent negative whole fraction false rest
      | '-' :: rest => readExponent negative whole fraction true rest
      | rest => readExponent negative whole fraction false rest
    else finishNumber negative whole fraction none (c :: rest)

/-- Reads what may follow the whole part. -/
def readAfterWhole (negative : Bool) (whole : List Char) : List Char → Node × List Char
  | '.' :: rest =>
    match rest.takeWhile isDigit with
    | [] => missingDigit rest
    | digits => readAfterFraction negative whole (some digits) (rest.dropWhile isDigit)
  | rest => readAfterFraction negative whole none rest

/-- Reads a number from the text after its sign. A zero in front of another digit
is invalid. -/
def readNumber (negative : Bool) (text : List Char) : Node × List Char :=
  match text.takeWhile isDigit with
  | [] => missingDigit text
  | '0' :: _ :: _ => (.faulty .invalid, [])
  | digits => readAfterWhole negative digits (text.dropWhile isDigit)

/-! ## Values -/

mutual

/-- Reads a value, and returns the text after it. -/
def readValue : Nat → List Char → Node × List Char
  | 0, _ => (.faulty .cut, [])
  | fuel + 1, text =>
    match skipSpace text with
    | [] => (.faulty .cut, [])
    | '\x22' :: rest => readString rest
    | '[' :: rest =>
      match skipSpace rest with
      | [] => (.array [] (some .cut), [])
      | ']' :: after => (.array [] none, after)
      | inner => readItems fuel inner
    | '{' :: rest =>
      match skipSpace rest with
      | [] => (.object [] (some .cut), [])
      | '}' :: after => (.object [] none, after)
      | '\x22' :: inner => readFields fuel inner
      | _ => (.keyless, [])
    | 'n' :: rest => readWord .null ['u', 'l', 'l'] rest
    | 't' :: rest => readWord (.bool true) ['r', 'u', 'e'] rest
    | 'f' :: rest => readWord (.bool false) ['a', 'l', 's', 'e'] rest
    | '-' :: rest => readNumber true rest
    | c :: rest =>
      if isDigit c then readNumber false (c :: rest) else (.faulty .invalid, [])

/-- Reads the items of an array from the first of them on. -/
def readItems : Nat → List Char → Node × List Char
  | 0, _ => (.array [] (some .cut), [])
  | fuel + 1, text =>
    let (item, rest) := readValue fuel text
    match skipSpace rest with
    | [] => (.array [item] (some .cut), [])
    | ']' :: after => (.array [item] none, after)
    | ',' :: more =>
      match readItems fuel more with
      | (.array items fault, after) => (.array (item :: items) fault, after)
      | other => other
    | _ => (.array [item] (some .invalid), [])

/-- Reads the fields of an object from the text after the quote of the first key
on. -/
def readFields : Nat → List Char → Node × List Char
  | 0, _ => (.object [] (some .cut), [])
  | fuel + 1, text =>
    let (key, rest) := readString text
    match skipSpace rest with
    | [] => (.object [(key, .faulty .cut)] none, [])
    | ':' :: rest =>
      let (value, rest) := readValue fuel rest
      match skipSpace rest with
      | [] => (.object [(key, value)] (some .cut), [])
      | '}' :: after => (.object [(key, value)] none, after)
      | ',' :: more =>
        match skipSpace more with
        | '\x22' :: more =>
          match readFields fuel more with
          | (.object fields fault, after) => (.object ((key, value) :: fields) fault, after)
          | other => other
        | [] => (.object [(key, value), (.faulty .cut, .null)] none, [])
        | _ => (.object [(key, value), (.faulty .invalid, .null)] none, [])
      | _ => (.object [(key, value)] (some .invalid), [])
    | _ => (.object [(key, .faulty .invalid)] none, [])

end

/-- A text read as one value. -/
structure Document where
  root : Node
  /-- Whether something other than blanks follows the value. -/
  trailing : Bool

/-- Every round of the reader uses up a character, so twice the length of the
text is fuel enough. -/
def Document.ofText (text : String) : Document :=
  let (root, rest) := readValue (2 * text.length + 2) text.toList
  ⟨root, !(skipSpace rest).isEmpty⟩

end CallSig.Json
