import CallSig.Log.Record
import CallSig.Pattern.Reader

/-!
# Which records are shown

A filter is written as a list of directives: a level for everything, or the
start of a target's name and a level for what comes from there. The longest
start that fits decides; without a level everything from there is shown. After a
slash may follow a pattern that every record has to contain.

A directive that makes no sense is passed over, and so is a text that is no
pattern. If no directive is left, only errors are shown.
-/

namespace CallSig.Log

/-- The greatest rank that is shown, for targets that start with a name. -/
structure Directive where
  name : Option String
  rank : Nat
  deriving Repr, DecidableEq

/-- The directives in the order in which they were given, and a pattern that has
to occur. -/
structure Filter where
  directives : List Directive
  contained : Option Pattern
  deriving Repr, DecidableEq

/-- The words for levels and their ranks. -/
def rankWords : List (String × Nat) :=
  [("off", 0), ("error", 1), ("warn", 2), ("info", 3), ("debug", 4), ("trace", 5)]

/-- The rank that a word stands for, in whatever case. -/
def rank? (word : String) : Option Nat :=
  rankWords.lookup (word.map Char.toLower)

def trimmed (text : String) : String :=
  String.ofList (Text.trim text.toList)

/-- The directive that a text writes. -/
def directive? (text : String) : Option Directive :=
  match text.splitOn "=" with
  | [word] =>
    match rank? word with
    | some rank => some ⟨none, rank⟩
    | none => some ⟨some word, 5⟩
  | [name, level] =>
    if trimmed level = "" then some ⟨some name, 5⟩
    else (rank? (trimmed level)).map fun rank => ⟨some name, rank⟩
  | _ => none

/-- The directives with one more; it replaces the one for the same name. -/
def putDirective (directive : Directive) : List Directive → List Directive
  | [] => [directive]
  | other :: rest =>
    if other.name = directive.name then directive :: rest
    else other :: putDirective directive rest

/-- The directives that a list separated by commas writes. -/
def directivesOf (text : String) : List Directive :=
  let pieces := (text.splitOn ",").map trimmed
  (pieces.filter (· != "")).foldl (fun found piece =>
    match directive? piece with
    | some directive => putDirective directive found
    | none => found) []

/-- The filter without directives, which shows errors. -/
def Filter.errors : Filter :=
  ⟨[⟨none, 1⟩], none⟩

/-- The filter that a text writes. -/
def Filter.parse (text : String) : Filter :=
  let (directives, contained) := match text.splitOn "/" with
    | [list] => (directivesOf list, none)
    | [list, contained] => (directivesOf list, Pattern.ofText? contained)
    | _ => ([], none)
  ⟨if directives.isEmpty then Filter.errors.directives else directives, contained⟩

/-- The size of the name that a directive is for. -/
def Directive.size (directive : Directive) : Nat :=
  (directive.name.map String.utf8ByteSize).getD 0

/-- Whether the directive is for this target. -/
def Directive.fits (directive : Directive) (target : String) : Bool :=
  match directive.name with
  | some name => name.toList.isPrefixOf target.toList
  | none => true

/-- The directive for a target: of those that fit, the last one of the longest
names. -/
def Filter.directiveFor? (filter : Filter) (target : String) : Option Directive :=
  (filter.directives.filter (·.fits target)).foldl (fun best directive =>
    match best with
    | some chosen => if chosen.size ≤ directive.size then some directive else best
    | none => some directive) none

/-- Whether the record is shown. -/
def Filter.shows (filter : Filter) (record : Record) : Bool :=
  (filter.directiveFor? record.target).any (fun directive => record.level.rank ≤ directive.rank) &&
    filter.contained.all fun pattern => pattern.occursIn record.message.toList

/-- The filter of a setting that may be missing: warnings and errors are shown
then. -/
def Filter.ofSetting (setting : Option String) : Filter :=
  Filter.parse (setting.getD "warn")

end CallSig.Log
