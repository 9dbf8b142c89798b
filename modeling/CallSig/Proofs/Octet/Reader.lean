import CallSig.Parse.Reading
import CallSig.Proofs.Octet.Scan
import CallSig.Proofs.Octet.Slice

/-!
# Reading a signature by places

The reader of this module keeps to the octets of a text: it looks for the places
where names, types, default values and groups end, and slices the text there.
Every slice may fail, the count of open brackets may not go below zero, each pass
over a type has to go further in the text, and each argument has to leave less of
the list; where one of these does not hold the reader stops with a `Fault`.
-/

namespace CallSig.Octet

open CallSig.Bracket CallSig.Parse CallSig.Text

/-- The text without separators in front. -/
def dropSeparators (text : String) : String :=
  .ofList (text.toList.dropWhile isSeparator)

def trimmedStart (text : String) : String :=
  .ofList (trimStart text.toList)

def trimmed (text : String) : String :=
  .ofList (trim text.toList)

/-! ## Brackets -/

/-- The place of the bracket that closes the last of `depth` open ones, in a text
that starts at the place `index`. -/
def closeFrom (opener closer : Char) : Nat → Nat → List Char → Except Fault (Option Nat)
  | _, _, [] => .ok none
  | depth, index, c :: rest =>
    if c = opener then closeFrom opener closer (depth + 1) (index + c.utf8Size) rest
    else if c = closer then
      if depth = 0 then .error .depthBelowZero
      else if depth - 1 = 0 then .ok (some index)
      else closeFrom opener closer (depth - 1) (index + c.utf8Size) rest
    else closeFrom opener closer depth (index + c.utf8Size) rest

/-- The place of the bracket that closes the one a text starts with. -/
def matchingClose (text : String) (opener closer : Char) : Except Fault (Option Nat) :=
  match text.toList with
  | [] => .ok none
  | c :: rest => if c = opener then closeFrom opener closer 1 c.utf8Size rest else .ok none

/-- The place of the closer of the bracket that a text starts with, read as one
construct. -/
def groupEnd (text : String) : Except Fault (Option Nat) := do
  match text.toList.head? with
  | none => return none
  | some opener =>
    match closer? opener with
    | none => return none
    | some closer =>
      let inner ← sliceFrom text opener.utf8Size
      match scanTo? inner [closer] with
      | none => return none
      | some stop =>
        return if stop < inner.utf8ByteSize then some (stop + opener.utf8Size) else none

/-! ## Types and default values -/

/-- Whether the bracket that a text starts with starts an optional group. -/
def opensOptionalGroup (text : String) : Except Fault Bool := do
  let inner ← sliceFrom text 1
  return startsOptionalGroup inner.toList

/-- How a pass over a type comes out: the type ends at a place, or goes on there
behind a subscript. -/
inductive Pass where
  | ends (stop : Nat)
  | goesOn (next : Nat)
  deriving Repr, DecidableEq

/-- One pass over a type of which the text up to `start` is read. -/
def typePass (text : String) (start : Nat) : Except Fault (Option Pass) := do
  let rest ← sliceFrom text start
  match scanTo? rest typeStops with
  | none => return none
  | some more =>
    let stop := start + more
    let tail ← sliceFrom text stop
    if tail.toList.head? ≠ some '[' then return some (.ends stop)
    if ← opensOptionalGroup tail then return some (.ends stop)
    match ← groupEnd tail with
    | none => return none
    | some close => return some (.goesOn (stop + (close + 1)))

/-- The place where a type ends of which the text up to `start` is read. -/
def typeEnd (text : String) (start : Nat) : Except Fault (Option Nat) := do
  match ← typePass text start with
  | none => return none
  | some (.ends stop) => return some stop
  | some (.goesOn next) =>
    if start < next ∧ next ≤ text.utf8ByteSize then typeEnd text next
    else throw .noProgress
termination_by text.utf8ByteSize - start

/-- The type that a text starts with, and the text after it. -/
def readType (text : String) : Except Fault (Option (String × String)) := do
  match ← typeEnd text 0 with
  | none => return none
  | some stop => return some (trimmed (← slice text 0 stop), ← sliceFrom text stop)

/-- The place of the closer of the bracket that is a default value. -/
def valueEnd (text : String) : Except Fault (Option Nat) :=
  match text.toList.head? with
  | some c => if opensValue c then groupEnd text else .ok none
  | none => .ok none

/-- The default value that a text starts with, and the text after it. -/
def readDefault (text : String) : Except Fault (Option (String × String)) := do
  let text := trimmedStart text
  match ← valueEnd text with
  | some close => return some (← slice text 0 (close + 1), ← sliceFrom text (close + 1))
  | none =>
    match scanTo? text defaultStops with
    | none => return none
    | some stop => return some (trimmed (← slice text 0 stop), ← sliceFrom text stop)

/-! ## Arguments -/

/-- An argument with the default value that a text starts with, and the text
after it, unless the value does not end. -/
def attachDefault (arg : Argument) (text : String) : Except Fault (Argument × Option String) := do
  match ← readDefault text with
  | some (value, rest) => return (arg.withDefault value, some rest)
  | none => return (arg, none)

/-- As `attachDefault`, for a text that may start with `=`. -/
def attachOptionalDefault (arg : Argument) (text : String) :
    Except Fault (Argument × Option String) :=
  match text.toList with
  | '=' :: value => attachDefault arg (.ofList value)
  | _ => return (arg, some text)

def attachType (arg : Argument) (text : String) : Except Fault (Argument × Option String) := do
  match ← readType text with
  | some (type, rest) => attachOptionalDefault (arg.withType type) rest
  | none => return (arg, none)

/-- An argument with what follows its name; the name ends at the place `stop`, in
front of the delimiter. -/
def attachRest (arg : Argument) (delimiter : Option Char) (text : String) (stop : Nat) :
    Except Fault (Argument × Option String) := do
  match delimiter with
  | some ':' => attachType arg (← sliceFrom text (stop + 1))
  | some '=' => attachDefault arg (← sliceFrom text (stop + 1))
  | some ')' => return (arg, none)
  | some '[' => return (arg, some (← sliceFrom text stop))
  | none => return (arg, some (← sliceFrom text stop))
  | some _ => return (arg, some (← sliceFrom text (stop + 1)))

/-! ## Lists -/

/-- The signature with one more argument. -/
def push (signature : Signature) (arg : Argument) : Signature :=
  ⟨signature.args ++ [arg], signature.variadic || arg.isVarPositional⟩

/-- The signature with the arguments of an optional group. -/
def pushGroup (signature group : Signature) : Signature :=
  ⟨signature.args ++ group.args.map (·.asOptional), signature.variadic || group.variadic⟩

/-- A grouped name that a text starts with: the signature with it, and the text
to go on with. -/
def readGroupedName (signature : Signature) (text : String) :
    Except Fault (Signature × Option String) := do
  match ← matchingClose text '(' ')' with
  | none => return (signature, none)
  | some close =>
    let name ← slice text 0 (close + 1)
    let after ← sliceFrom text (close + 1)
    let (arg, rest) ← attachOptionalDefault (.named name) (trimmedStart after)
    return (push signature arg, rest)

/-- As `readName`, where no name stands in front of the delimiter. -/
def readNameless (signature : Signature) (delimiter : Option Char) (text : String) (stop : Nat) :
    Except Fault (Signature × Option String) := do
  match delimiter with
  | none => return (signature, none)
  | some ')' => return (signature, none)
  | some '[' => return (signature, none)
  | some _ => return (signature, some (← sliceFrom text (stop + 1)))

/-- A name that a text starts with: the signature with it, and the text to go on
with. -/
def readName (signature : Signature) (text : String) :
    Except Fault (Signature × Option String) := do
  match scanTo? text nameStops with
  | none => return (signature, none)
  | some stop =>
    let name := trimmed (← slice text 0 stop)
    let delimiter := (← sliceFrom text stop).toList.head?
    if name = "" then readNameless signature delimiter text stop
    else
      let (arg, rest) ← attachRest (namedArgument signature.args.getLast? name) delimiter text stop
      return (push signature arg, rest)

/-- The signature with the arguments of the list that a text is, which stands in
`depth` optional groups. -/
def readList (depth : Nat) (signature : Signature) (text : String) : Except Fault Signature := do
  let rest := dropSeparators text
  match rest.toList.head? with
  | none => return signature
  | some '[' =>
    if _deep : maxGroupDepth ≤ depth then return signature
    else
      match ← matchingClose rest '[' ']' with
      | none => return signature
      | some close =>
        let group ← readList (depth + 1) .empty (← slice rest 1 close)
        let remaining ← sliceFrom rest (close + 1)
        if remaining.utf8ByteSize < text.utf8ByteSize then
          readList depth (pushGroup signature group) remaining
        else throw .noProgress
  | some c =>
    let (signature, next) ←
      if c = '(' then readGroupedName signature rest else readName signature rest
    match next with
    | none => return signature
    | some remaining =>
      if remaining.utf8ByteSize < text.utf8ByteSize then readList depth signature remaining
      else throw .noProgress
termination_by (maxGroupDepth - depth, text.utf8ByteSize)

/-- The signature that a text starts with. -/
def readSignature (text : String) : Except Fault Signature := do
  match ← matchingClose text '(' ')' with
  | none => return .empty
  | some close => readList 0 .empty (← slice text 1 close)

end CallSig.Octet
