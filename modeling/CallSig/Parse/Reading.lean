import CallSig.Parse.Turn
import CallSig.Signature

/-!
# Reading a parameter list

`readList` repeats `nextTurn` until the list is over or a construct is
abandoned, and keeps the arguments, the variadic flag and the events in their
order. An optional group is a list of its own: its arguments become optional, an
ellipsis in it looks at that list alone, and when it is abandoned the list
around it goes on.

`parseSignature` reads the list between the first parenthesis of a text, which
has to be its first character, and the one that closes it. What comes after is
never looked at.
-/

namespace CallSig.Parse

open CallSig.Bracket

/-- What was read of a list, and what happened meanwhile. -/
structure Reading where
  args : List Argument
  variadic : Bool
  events : List Event
  deriving Repr, DecidableEq

namespace Reading

/-- Nothing read. -/
def empty : Reading :=
  ⟨[], false, []⟩

/-- Nothing read, because a construct had to be given up. -/
def abandoned (why : Abandonment) : Reading :=
  ⟨[], false, [.abandoned why]⟩

/-- One argument and the event of its being recorded. -/
def single (arg : Argument) : Reading :=
  ⟨[arg], arg.isVarPositional, [.parsed arg]⟩

/-- One reading after another. -/
def append (first second : Reading) : Reading :=
  ⟨first.args ++ second.args, first.variadic || second.variadic, first.events ++ second.events⟩

instance : Append Reading := ⟨append⟩

/-- The same reading with every argument optional. -/
def asOptional (reading : Reading) : Reading :=
  { reading with args := reading.args.map (·.asOptional) }

@[simp] theorem args_append (first second : Reading) :
    (first ++ second).args = first.args ++ second.args := rfl

@[simp] theorem variadic_append (first second : Reading) :
    (first ++ second).variadic = (first.variadic || second.variadic) := rfl

@[simp] theorem events_append (first second : Reading) :
    (first ++ second).events = first.events ++ second.events := rfl

end Reading

/-- Reads a list that stands in `depth` optional groups; `previous` is the last
argument before it. -/
def readList (depth : Nat) (previous : Option Argument) (body : List Char) : Reading :=
  match _turn : nextTurn depth previous body with
  | .finished => .empty
  | .abandoned why => .abandoned why
  | .skip rest => readList depth previous rest
  | .group inner rest =>
    let group := (readList (depth + 1) none inner).asOptional
    group ++ readList depth (group.args.getLast?.or previous) rest
  | .argument arg .finished => .single arg
  | .argument arg (.abandoned why) => .abandoned why ++ .single arg
  | .argument arg (.more rest) => .single arg ++ readList depth (some arg) rest
termination_by body.length
decreasing_by
  all_goals
    have below := Turn.below_nextTurn depth previous body
    rw [_turn] at below
    first
      | exact below
      | exact below.1
      | exact below.2

/-- Reads the signature that a text starts with. -/
def readSignature (text : List Char) : Reading :=
  match group? '(' ')' text with
  | some (body, _) => readList 0 none body
  | none => if text = [] then .empty else .abandoned (.unbalancedList (String.ofList text))

end CallSig.Parse

namespace CallSig

/-- The signature that a text starts with, as far as it can be read. -/
def parseSignature (text : String) : Signature :=
  let reading := Parse.readSignature text.toList
  ⟨reading.args, reading.variadic⟩

/-- The arguments of the signature that a text starts with. -/
def parseArguments (text : String) : List Argument :=
  (parseSignature text).args

/-- What happens while the signature that a text starts with is read. -/
def parseEvents (text : String) : List Parse.Event :=
  (Parse.readSignature text.toList).events

/-- The type that a text starts with, and the text after it. -/
def parseType? (text : String) : Option (String × String) :=
  (Parse.splitType? text.toList).map fun (type, rest) => (.ofList type, .ofList rest)

/-- The default value that a text starts with, and the text after it. -/
def parseDefault? (text : String) : Option (String × String) :=
  (Parse.splitDefault? text.toList).map fun (value, rest) => (.ofList value, .ofList rest)

end CallSig
