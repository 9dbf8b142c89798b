import CallSig.Json.Node
import CallSig.Text.Quoted

/-!
# Decoding values of a known kind

A decoder goes through a `Node` in the order of the text and returns the value or
the first thing that is wrong: a fault of the text, or a `Mismatch` between the
value and the kind that is wanted.

A record is written as an object, whose unknown fields are passed over, or as an
array of its fields in order, of which those at the end that may be missing can
be left out. `RecordKind.read` checks either form and returns the fields that are
there; the record is then put together from these.
-/

namespace CallSig.Json

/-- How a value differs from the kind that is wanted. -/
inductive Mismatch where
  | wrongType (found expected : String)
  | missingField (name : String)
  | duplicateField (name : String)
  /-- An array that ends before a required field of the record. -/
  | tooShort (length : Nat) (record : String) (size : Nat)
  /-- An array that goes on after the last field of the record. -/
  | tooLong (length : Nat)
  | unknownVariant (name : String) (known : List String)
  deriving Repr, DecidableEq

def Mismatch.message : Mismatch → String
  | .wrongType found expected => "invalid type: " ++ found ++ ", expected " ++ expected
  | .missingField name => "missing field `" ++ name ++ "`"
  | .duplicateField name => "duplicate field `" ++ name ++ "`"
  | .tooShort length record size =>
    "invalid length " ++ toString length ++ ", expected " ++ record ++ " with " ++
      toString size ++ " elements"
  | .tooLong length =>
    "invalid length " ++ toString length ++ ", expected fewer elements in array"
  | .unknownVariant name known =>
    "unknown variant `" ++ name ++ "`, expected one of " ++
      ", ".intercalate (known.map fun label => "`" ++ label ++ "`")

/-- Why no value comes out of a text. -/
inductive DecodeError where
  | fault (fault : Fault)
  | mismatch (mismatch : Mismatch)
  deriving Repr, DecidableEq

/-- The result of decoding. -/
abbrev Decoded := Except DecodeError

/-! ## Single values -/

/-- The node of a kind that is not wanted. -/
def Node.refuse {α : Type} (expected : String) : Node → Decoded α
  | .null => wrong "null"
  | .bool true => wrong "boolean `true`"
  | .bool false => wrong "boolean `false`"
  | .number value => wrong value.describe
  | .string text => wrong ("string " ++ Text.quoted text)
  | .array _ _ => wrong "sequence"
  | .object _ _ => wrong "map"
  | .keyless => wrong "map"
  | .unusable => .error (.fault .invalid)
  | .broken faults => .error (.fault faults.wanted)
where
  wrong (found : String) : Decoded α := .error (.mismatch (.wrongType found expected))

def decodeString : Node → Decoded String
  | .string text => .ok text
  | node => node.refuse "a string"

def decodeBool : Node → Decoded Bool
  | .bool value => .ok value
  | node => node.refuse "a boolean"

/-- A value for which `null` stands when there is none. -/
def decodeOption {α : Type} (decode : Node → Decoded α) : Node → Decoded (Option α)
  | .null => .ok none
  | node => (decode node).map some

def faultOf : Option Fault → Decoded Unit
  | some fault => .error (.fault fault)
  | none => .ok ()

def decodeList {α : Type} (decode : Node → Decoded α) : Node → Decoded (List α)
  | .array items fault => do
    let values ← items.mapM decode
    faultOf fault
    pure values
  | node => node.refuse "a sequence"

/-! ## Passing over a value -/

/-- A key on which only the shape of the string counts. -/
def passKey : Node → Decoded Unit
  | .string _ => .ok ()
  | .unusable => .ok ()
  | .broken faults => .error (.fault faults.passed)
  | _ => .error (.fault .invalid)

mutual

/-- Checks that a value has no fault that cannot be passed over. -/
def Node.pass : Node → Decoded Unit
  | .array items fault => do
    passItems items
    faultOf fault
  | .object fields fault => do
    passFields fields
    faultOf fault
  | .keyless => .error (.fault .invalid)
  | .broken faults => .error (.fault faults.passed)
  | _ => .ok ()

def passItems : List Node → Decoded Unit
  | [] => .ok ()
  | item :: rest => do
    item.pass
    passItems rest

def passFields : List (Node × Node) → Decoded Unit
  | [] => .ok ()
  | (key, value) :: rest => do
    passKey key
    value.pass
    passFields rest

end

/-! ## Records -/

/-- A field of a record: its name, whether it has to be there, and what its value
has to be. -/
structure FieldKind where
  name : String
  required : Bool
  accepts : Node → Decoded Unit

/-- A field whose value the decoder accepts. -/
def FieldKind.of {α : Type} (name : String) (required : Bool) (decode : Node → Decoded α) :
    FieldKind :=
  ⟨name, required, fun node => (decode node).map fun _ => ()⟩

/-- A record: what messages call it, and its fields in order. -/
structure RecordKind where
  title : String
  fields : List FieldKind

/-- The fields that a text has, by name. -/
abbrev Found := List (String × Node)

/-- The name that a key gives. -/
def keyName : Node → Decoded String
  | .string text => .ok text
  | .broken faults => .error (.fault faults.wanted)
  | _ => .error (.fault .invalid)

/-- Goes through the fields of an object; `found` are the known ones so far. -/
def RecordKind.readFields (kind : RecordKind) (found : Found) :
    List (Node × Node) → Decoded Found
  | [] => .ok found
  | (key, value) :: rest => do
    let name ← keyName key
    match kind.fields.find? (·.name == name) with
    | none =>
      value.pass
      kind.readFields found rest
    | some field =>
      if (found.lookup name).isSome then .error (.mismatch (.duplicateField name))
      else
        field.accepts value
        kind.readFields (found ++ [(name, value)]) rest

/-- Goes through the items of an array, one for each field that is due; `taken`
counts the items before. -/
def RecordKind.readItems (kind : RecordKind) (taken : Nat) (fault : Option Fault) :
    List FieldKind → List Node → Decoded Found
  | [], [] => do
    faultOf fault
    pure []
  | [], items => .error (.mismatch (.tooLong (taken + items.length)))
  | field :: fields, [] => do
    faultOf fault
    if field.required then
      .error (.mismatch (.tooShort taken kind.title kind.fields.length))
    else kind.readItems taken fault fields []
  | field :: fields, item :: items => do
    field.accepts item
    let rest ← kind.readItems (taken + 1) fault fields items
    pure ((field.name, item) :: rest)

/-- The fields of a record in either of its forms. -/
def RecordKind.read (kind : RecordKind) : Node → Decoded Found
  | .object fields fault => do
    let found ← kind.readFields [] fields
    faultOf fault
    pure found
  | .array items fault => kind.readItems 0 fault kind.fields items
  | .keyless => .error (.fault .invalid)
  | node => node.refuse kind.title

/-- The value of a field that has to be there. -/
def Found.required {α : Type} (found : Found) (name : String) (decode : Node → Decoded α) :
    Decoded α :=
  match found.lookup name with
  | some node => decode node
  | none => .error (.mismatch (.missingField name))

/-- The value of a field that may be missing. -/
def Found.optional {α : Type} (found : Found) (name : String) (absent : α)
    (decode : Node → Decoded α) : Decoded α :=
  match found.lookup name with
  | some node => decode node
  | none => .ok absent

/-! ## Names out of a fixed list -/

/-- The name that a node gives: a string, or an object with one field whose value
is `null`. -/
def decodeVariant {α : Type} (known : List String) (ofLabel? : String → Option α) :
    Node → Decoded α
  | .string text => variant text
  | .object [] (some fault) => .error (.fault fault)
  | .object ((key, value) :: rest) fault => do
    let name ← keyName key
    let found ← variant name
    match value with
    | .null =>
      match rest with
      | [] =>
        faultOf fault
        pure found
      | _ :: _ => .error (.fault .invalid)
    | other => other.refuse "unit"
  | .broken faults => .error (.fault faults.named)
  | _ => .error (.fault .invalid)
where
  variant (name : String) : Decoded α :=
    match ofLabel? name with
    | some found => .ok found
    | none => .error (.mismatch (.unknownVariant name known))

/-! ## Whole texts -/

/-- The error for a text: it breaks off where an array goes on too long, so the
length of the array is not known. -/
def DecodeError.inText : DecodeError → DecodeError
  | .mismatch (.tooLong _) => .fault .invalid
  | error => error

/-- The value that a text holds. What follows the value is looked at last. -/
def Document.decode {α : Type} (document : Document) (decode : Node → Decoded α) : Decoded α := do
  let value ← (decode document.root).mapError DecodeError.inText
  if document.trailing then .error (.fault .invalid) else pure value

/-- The value that a text holds. -/
def decodeText {α : Type} (text : String) (decode : Node → Decoded α) : Decoded α :=
  (Document.ofText text).decode decode

end CallSig.Json
