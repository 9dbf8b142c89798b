import CallSig.Decimal.Layout
import CallSig.Toml.Value

/-!
# Values of settings

Settings from several sources are gathered in one tree of values. Each value
remembers the file it was read from, if it came from there as it is; a table that
was merged from several sources, and a value set by hand, has no such origin.

Names in a table are kept in lower case (ASCII letters only), whatever their
spelling in a source.

A table has no order of its own: its entries are gone through in an order that is
not specified and may be another one in every run. Nor is there room for lists of
any length. Both are left to the `Machine`. On the usual one, with which the
program runs, tables keep the order of the document; that is a choice made here.
-/

namespace CallSig.Settings

/-- What is left open about the machine that settings are loaded on. -/
structure Machine where
  /-- The most items that a list can have. -/
  room : Nat
  /-- The order in which entries are gone through. -/
  walk : {α : Type} → List α → List α
  walk_perm : ∀ {α : Type} (entries : List α), (walk entries).Perm entries

/-- The machine of the program itself: entries keep their order, and no list gets
longer than this by a key that names a place in it. -/
def Machine.usual : Machine where
  room := Decimal.twoPow 24
  walk entries := entries
  walk_perm entries := .refl entries

/-- A value that is no list or table. -/
inductive Scalar where
  | nil
  | bool (value : Bool)
  | integer (value : Int)
  | float (value : Float)
  | text (value : String)
  deriving Inhabited

/-- A value and the file it comes from. -/
inductive Value where
  | scalar (origin : Option String) (value : Scalar)
  | array (origin : Option String) (items : List Value)
  | table (origin : Option String) (fields : List (String × Value))
  deriving Inhabited

/-- The fields of a table. -/
abbrev Fields := List (String × Value)

/-- A name as tables keep it. -/
def foldName (name : String) : String :=
  name.map Char.toLower

namespace Value

/-- A value that is set by hand. -/
def byHand (value : Scalar) : Value :=
  .scalar none value

mutual

/-- A value of a document, read from the named file. The entries of its tables come
in the order in which they will be merged. -/
def ofToml (machine : Machine) (origin : Option String) : Toml.Value → Value
  | .string text => .scalar origin (.text text)
  | .integer value => .scalar origin (.integer value)
  | .float value => .scalar origin (.float value)
  | .bool value => .scalar origin (.bool value)
  | .datetime text => .scalar origin (.text text)
  | .array items => .array origin (itemsOfToml machine origin items)
  | .table fields => .table origin (machine.walk (fieldsOfToml machine origin fields))

def itemsOfToml (machine : Machine) (origin : Option String) : List Toml.Value → List Value
  | [] => []
  | item :: rest => ofToml machine origin item :: itemsOfToml machine origin rest

def fieldsOfToml (machine : Machine) (origin : Option String) :
    List (String × Toml.Value) → Fields
  | [] => []
  | (name, value) :: rest =>
    (name, ofToml machine origin value) :: fieldsOfToml machine origin rest

end

/-! ## Tables -/

/-- The field of a folded name; only tables have fields. -/
def field? (value : Value) (name : String) : Option Value :=
  match value with
  | .table _ fields => fields.lookup name
  | _ => none

/-- The fields with the value of a name in place of the former one, if any. -/
def putField (name : String) (value : Value) : Fields → Fields
  | [] => [(name, value)]
  | (other, old) :: rest =>
    if other = name then (name, value) :: rest else (other, old) :: putField name value rest

/-- The table with a field set. What is no table becomes one. -/
def withField (value : Value) (name : String) (field : Value) : Value :=
  match value with
  | .table origin fields => .table origin (putField name field fields)
  | _ => .table none [(name, field)]

mutual

/-- What a name stands for after a new value is merged into the former one: the
fields of a table are merged one by one, anything else is replaced. -/
def merged (former : Option Value) : Value → Value
  | .table _ fields => mergedFields (former.getD (.table none [])) fields
  | value => value

/-- A value after fields are merged into it. -/
def mergedFields (value : Value) : Fields → Value
  | [] => value
  | (name, field) :: rest =>
    mergedFields
      (value.withField (foldName name) (merged (value.field? (foldName name)) field)) rest

end

/-! ## Lists -/

/-- The list with an item changed, where items that are not there yet count as
nil. A negative place counts from the end; the list grows at the front when it
is too short for that. -/
def changeItem (place : Int) (change : Value → Value) (items : List Value) : List Value :=
  let nil := byHand .nil
  if 0 ≤ place then
    let padded := items ++ List.replicate (place.toNat + 1 - items.length) nil
    padded.modify place.toNat change
  else
    let back := (-place).toNat
    let padded := List.replicate (back - items.length) nil ++ items
    padded.modify (padded.length - back) change

/-- The list with an item changed. What is no list becomes one. -/
def withItem (value : Value) (place : Int) (change : Value → Value) : Value :=
  match value with
  | .array origin items => .array origin (changeItem place change items)
  | _ => .array none (changeItem place change [])

theorem field?_withField_self (value : Value) (name : String) (field : Value) :
    (value.withField name field).field? name = some field := by
  have put (fields : Fields) : (putField name field fields).lookup name = some field := by
    induction fields with
    | nil => simp [putField]
    | cons pair rest ih =>
      obtain ⟨other, old⟩ := pair
      by_cases same : other = name
      · simp [putField, same]
      · simp only [putField, same, if_false, List.lookup_cons]
        have distinct : (name == other) = false := beq_eq_false_iff_ne.mpr (Ne.symm same)
        simp [distinct, ih]
  cases value <;> simp [withField, field?, put]

theorem field?_withField_of_ne (value : Value) {name other : String} (field : Value)
    (distinct : other ≠ name) : (value.withField name field).field? other = value.field? other := by
  have apart : (other == name) = false := beq_eq_false_iff_ne.mpr distinct
  have put (fields : Fields) : (putField name field fields).lookup other = fields.lookup other := by
    induction fields with
    | nil => simpa [putField] using distinct
    | cons pair rest ih =>
      obtain ⟨first, old⟩ := pair
      by_cases same : first = name
      · subst same
        simp [putField, List.lookup_cons, apart]
      · simp only [putField, same, if_false, List.lookup_cons, ih]
  cases value <;> simp [withField, field?, put, distinct]

end Value

end CallSig.Settings
