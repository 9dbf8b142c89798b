import CallSig.Toml.Scalar

/-!
# TOML documents

A document is read line by line into a tree of tables. Each table remembers how
it came about, because that decides who may still add to it:

* one with a header of its own, or the root, is `explicit`: no second header and
  no dotted key may name it;
* one that only occurs inside a longer header is `implicit`: a header may still
  name it once;
* one made by a dotted key is `dotted`: further dotted keys may add to it.

A table or list given as a value is closed. Where a header passes an array of
tables, its last element is meant.

In the finished document a table whose first key is `datetimeKey` is no table: it
is the date or time that the value of this key says.
-/

namespace CallSig.Toml

/-- How a table came about. -/
inductive Origin where
  | explicit
  | implicit
  | dotted
  deriving Repr, DecidableEq

/-- What a name stands for while a document is read. -/
inductive Node where
  | leaf (value : Value)
  | table (origin : Origin) (entries : List (String × Node))
  | tables (elements : List (List (String × Node)))
  deriving Inhabited

/-- The entries of a table. -/
abbrev Entries := List (String × Node)

mutual

/-- What a name stands for in the finished document. -/
def Node.value : Node → Value
  | .leaf value => value
  | .table _ entries => .table (fieldsOf entries)
  | .tables elements => .array (elementsOf elements)

def fieldsOf : Entries → List (String × Value)
  | [] => []
  | (key, node) :: rest => (key, node.value) :: fieldsOf rest

def elementsOf : List Entries → List Value
  | [] => []
  | entries :: rest => .table (fieldsOf entries) :: elementsOf rest

end

/-! ## Adding to tables -/

/-- The entries with the node of a name in place of the former one, if any. -/
def Entries.put (entries : Entries) (key : String) (node : Node) : Entries :=
  match entries with
  | [] => [(key, node)]
  | (other, old) :: rest =>
    if other = key then (key, node) :: rest else (other, old) :: Entries.put rest key node

/-- The entries without the one of a name. -/
def Entries.remove (entries : Entries) (key : String) : Entries :=
  entries.filter fun entry => entry.1 != key

/-- Changes the table at the end of a path, and makes the tables on the way that
are not there yet. `dotted` says that the path is part of a dotted key. -/
def update (dotted : Bool) (change : Origin → Entries → Option Entries) :
    List String → Origin → Entries → Option Entries
  | [], origin, entries => change origin entries
  | key :: path, _, entries =>
    match entries.lookup key with
    | none => do
      let origin : Origin := if dotted then .dotted else .implicit
      let inner ← update dotted change path origin []
      pure (entries.put key (.table origin inner))
    | some (.leaf _) => none
    | some (.tables elements) =>
      match elements.reverse with
      | [] => none
      | last :: before => do
        let inner ← update dotted change path .explicit last
        pure (entries.put key (.tables (inner :: before).reverse))
    | some (.table origin inner) =>
      if dotted && origin = .explicit then none
      else do
        let inner ← update dotted change path origin inner
        pure (entries.put key (.table origin inner))

/-- Adds a value under a name that is not taken. A value under a dotted key goes
into a table made by dotted keys. -/
def insertLeaf (path : List String) (key : String) (value : Value) (origin : Origin)
    (entries : Entries) : Option Entries :=
  if !path.isEmpty && origin != .dotted then none
  else if (entries.lookup key).isSome then none
  else some (entries.put key (.leaf value))

/-- Splits the last part off a key. -/
def splitLast : List String → Option (List String × String)
  | [] => none
  | [key] => some ([], key)
  | part :: rest => (splitLast rest).map fun (path, key) => (part :: path, key)

/-- Adds a value under a key to a table. -/
def addValue (key : List String) (value : Value) (origin : Origin) (entries : Entries) :
    Option Entries := do
  let (path, name) ← splitLast key
  update true (insertLeaf path name value) path origin entries

/-- Opens the table that a header names. It is then the last one of its table. -/
def openTable (header : List String) (root : Entries) : Option Entries := do
  let (path, name) ← splitLast header
  let claim (_ : Origin) (entries : Entries) : Option Entries :=
    match entries.lookup name with
    | none => some (entries.put name (.table .explicit []))
    | some (.table .implicit inner) =>
      some (entries.remove name ++ [(name, .table .explicit inner)])
    | _ => none
  update false claim path .explicit root

/-- Opens a new element of the array of tables that a header names. -/
def openElement (header : List String) (root : Entries) : Option Entries := do
  let (path, name) ← splitLast header
  let claim (_ : Origin) (entries : Entries) : Option Entries :=
    match entries.lookup name with
    | none => some (entries.put name (.tables [[]]))
    | some (.tables elements) => some (entries.put name (.tables (elements ++ [[]])))
    | _ => none
  update false claim path .explicit root

/-! ## Values -/

mutual

/-- Reads a value that stands in `depth` containers; `fuel` bounds the number of
values and items. -/
def readValue : Nat → Nat → List Char → Option (Value × List Char)
  | 0, _, _ => none
  | fuel + 1, depth, text =>
    match text with
    | '[' :: rest =>
      if nestingLimit ≤ depth + 1 then none
      else
        match skipLines false rest with
        | ']' :: after => some (.array [], after)
        | inner =>
          (readItems fuel (depth + 1) inner).map fun (items, after) => (.array items, after)
    | '{' :: rest =>
      if nestingLimit ≤ depth + 1 then none
      else
        match skipBlanks rest with
        | '}' :: after => some (.table [], after)
        | inner =>
          (readPairs fuel (depth + 1) [] inner).map fun (entries, after) =>
            (.table (fieldsOf entries), after)
    | c :: _ =>
      if c = '\x22' || c = '\x27' then
        (readString text).map fun (read, after) => (.string (String.ofList read), after)
      else readWord text
    | [] => none

/-- Reads the items of an array from the first of them on; a comma may follow the
last. -/
def readItems : Nat → Nat → List Char → Option (List Value × List Char)
  | 0, _, _ => none
  | fuel + 1, depth, text => do
    let (item, rest) ← readValue fuel depth text
    match skipLines false rest with
    | ']' :: after => pure ([item], after)
    | ',' :: more =>
      match skipLines false more with
      | ']' :: after => pure ([item], after)
      | more =>
        let (items, after) ← readItems fuel depth more
        pure (item :: items, after)
    | _ => none

/-- Reads the pairs of a table that is written as a value; it stands on one line
and no comma follows the last pair. -/
def readPairs : Nat → Nat → Entries → List Char → Option (Entries × List Char)
  | 0, _, _, _ => none
  | fuel + 1, depth, entries, text => do
    let (key, rest) ← readKey keyLimit text
    match rest with
    | '=' :: rest =>
      let (value, rest) ← readValue fuel depth (skipBlanks rest)
      let entries ← addValue key value .explicit entries
      match skipBlanks rest with
      | '}' :: after => pure (entries, after)
      | ',' :: more => readPairs fuel depth entries more
      | _ => none
    | _ => none

end

/-! ## Lines -/

/-- The table that the lines since the last header belong to. -/
structure Reading where
  root : Entries
  header : List String

/-- Reads one line that is not blank, and returns the text of the next. -/
def readLine (fuel : Nat) (reading : Reading) (text : List Char) :
    Option (Reading × List Char) :=
  match text with
  | '[' :: '[' :: rest => do
    let (header, rest) ← readKey keyLimit rest
    match rest with
    | ']' :: ']' :: rest =>
      let next ← lineEnd? rest
      pure (⟨← openElement header reading.root, header⟩, next)
    | _ => none
  | '[' :: rest => do
    let (header, rest) ← readKey keyLimit rest
    match rest with
    | ']' :: rest =>
      let next ← lineEnd? rest
      pure (⟨← openTable header reading.root, header⟩, next)
    | _ => none
  | text => do
    let (key, rest) ← readKey keyLimit text
    match rest with
    | '=' :: rest =>
      let (value, rest) ← readValue fuel 0 (skipBlanks rest)
      let next ← lineEnd? rest
      let root ← update false (addValue key value) reading.header .explicit reading.root
      pure (⟨root, reading.header⟩, next)
    | _ => none

/-- Reads all lines; each round uses up a character, so the length of the text is
fuel enough. -/
def readLines : Nat → Reading → List Char → Option Entries
  | 0, reading, _ => some reading.root
  | fuel + 1, reading, text =>
    match skipLines false text with
    | [] => some reading.root
    | line => do
      let (reading, next) ← readLine (2 * text.length + 2) reading line
      readLines fuel reading next

/-! ## Tables that are dates or times -/

/-- The key that makes a table a date or time when it comes first. -/
def datetimeKey : String := "$__toml_private_datetime"

/-- The date or time that the value of `datetimeKey` says. -/
def markedDatetime? : Value → Option Value
  | .string text => (Datetime.ofText? text).map .datetime
  | _ => none

mutual

/-- What a value means once its tables that are dates or times are taken as such.
Nothing but the first key counts in those. -/
def Value.meaning? : Value → Option Value
  | .array items => do pure (.array (← meaningOfItems? items))
  | .table ((key, value) :: rest) =>
    if key = datetimeKey then markedDatetime? value
    else do pure (.table ((key, ← value.meaning?) :: (← meaningOfFields? rest)))
  | value => some value

def meaningOfItems? : List Value → Option (List Value)
  | [] => some []
  | item :: rest => do pure ((← item.meaning?) :: (← meaningOfItems? rest))

def meaningOfFields? : List (String × Value) → Option (List (String × Value))
  | [] => some []
  | (key, value) :: rest => do pure ((key, ← value.meaning?) :: (← meaningOfFields? rest))

end

/-! ## Documents -/

/-- The value of a document: a table, or the date or time that its root is. A byte
order mark in front is passed over. -/
def read? (text : String) : Option Value := do
  let chars := match text.toList with
    | '\ufeff' :: rest => rest
    | chars => chars
  let root ← readLines (chars.length + 1) ⟨[], []⟩ chars
  (Value.table (fieldsOf root)).meaning?

end CallSig.Toml
