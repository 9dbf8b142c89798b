import CallSig.Parse.Turn
import CallSig.Proofs.Bracket.Balanced
import CallSig.Proofs.Parse.Expression

/-!
# Well-formed parameters

A well-formed parameter is a plain name with a type and a default value that may
be left out, or a parenthesised group of names with a default value that may be
left out. Types and default values are balanced expressions, with what would end
them kept inside brackets, quotes and reprs.

`splitType?_of_isType` and `splitDefault?_of_isDefault` say that a reader takes
such a text whole when a delimiter comes behind it.
-/

namespace CallSig.Parse

open CallSig.Bracket CallSig.Text

variable {text left more before gap : List Char}

/-! ## The texts of a parameter -/

/-- Whether the character may stand in a plain name. -/
def isNameChar (c : Char) : Bool :=
  isOrdinary c && c != ',' && c != ':' && c != '='

/-- A name that is one token. -/
structure PlainName (name : List Char) : Prop where
  nonempty : name ≠ []
  trimmed : Trimmed name
  nameChars : ∀ c ∈ name, isNameChar c = true
  notEllipsis : name ≠ ['.', '.', '.']

/-- Outside its brackets a type has no `,`, no `=`, and no bracket that would
start an optional group. -/
def typeOutermost : Outermost :=
  ⟨fun c => c != ',' && c != '=', fun opener inner => opener != '[' || !startsOptionalGroup inner⟩

structure IsType (type : List Char) : Prop where
  nonempty : type ≠ []
  trimmed : Trimmed type
  balanced : Balanced typeOutermost type

/-- Outside its brackets a default value has no `,` and no `[`. -/
def defaultOutermost : Outermost :=
  ⟨fun c => c != ',', fun opener _ => opener != '['⟩

/-- A default value is one bracket, or does not start with one. -/
inductive IsDefault : List Char → Prop
  | bracket {opener closer : Char} {inner : List Char} : opensValue opener = true →
    closer? opener = some closer → Balanced .anything inner →
    IsDefault (opener :: (inner ++ [closer]))
  | expression {value : List Char} : value ≠ [] → Trimmed value →
    (∀ c, value.head? = some c → opensValue c = false) → Balanced defaultOutermost value →
    IsDefault value

/-- A parameter as the documentation of a call has it. -/
inductive WellFormed : Argument → Prop
  | named {name : String} {type default : Option String} : PlainName name.toList →
    (∀ text, type = some text → IsType text.toList) →
    (∀ text, default = some text → IsDefault text.toList) → WellFormed ⟨name, type, default, false⟩
  | grouped {inner : List Char} {default : Option String} : Balanced .anything inner →
    (∀ text, default = some text → IsDefault text.toList) →
    WellFormed ⟨String.ofList ('(' :: (inner ++ [')'])), none, default, false⟩

/-! ## Reading a type -/

/-- The parts of a type that hold no subscript. -/
def partOutermost : Outermost :=
  ⟨fun c => c != ',' && c != '=', fun opener _ => opener != '['⟩

/-- Nothing that may stand outermost in a part of a type ends a type. -/
theorem partOutermost_clear : partOutermost.Clear typeStops where
  char := List.all_iff_forall_prop.mp (by decide)
  quote := List.all_iff_forall_prop.mp (by decide)
  group := by simp [typeStops, closer?, partOutermost]
  angle := by decide
  reprChar := List.all_iff_forall_prop.mp (by decide)

theorem TypeCut.prepend {piece : List Char} (passes : Passes typeStops [] piece)
    (cut : TypeCut more left) : TypeCut (piece ++ more) left := by
  cases cut with
  | last found boundary => exact .last (cut?_prepend passes found) boundary
  | @subscript first rest more _ found required skipped again =>
    have whole := TypeCut.subscript (cut?_prepend passes found) required skipped again
    simpa using whole

/-- The text in front of which a type ends. -/
def TypeEnds (left : List Char) : Prop :=
  Ends typeStops left ∧ ∀ rest, left = '[' :: rest → startsOptionalGroup rest = true

theorem TypeCut.of_typeEnds (ends : TypeEnds left) : TypeCut [] left :=
  .last (walk?_of_ends ends.1) ends.2

/-- A subscript may be put in front of the rest of a type. -/
theorem TypeCut.bracket {inner : List Char} (balanced : Balanced .anything inner)
    (required : startsOptionalGroup inner = false) (cut : TypeCut more left) :
    TypeCut ('[' :: (inner ++ [']']) ++ more) left := by
  have skipped := skipGroup?_of_balanced (rfl : closer? '[' = some ']') balanced (more ++ left)
  have stillRequired : startsOptionalGroup (inner ++ ']' :: (more ++ left)) = false := by
    rwa [startsOptionalGroup_closed]
  have found : cut? typeStops ([] ++ '[' :: (inner ++ [']'] ++ (more ++ left))) =
      some ([], '[' :: (inner ++ [']'] ++ (more ++ left))) := walk?_of_ends rfl
  have whole := TypeCut.subscript found (by simpa using stillRequired) (by simpa using skipped) cut
  simpa using whole

/-- A type is read up to any text that ends it. -/
theorem TypeCut.of_balanced {type : List Char} (balanced : Balanced typeOutermost type)
    (cut : TypeCut more left) : TypeCut (type ++ more) left := by
  have passes : ∀ {piece : List Char}, Balanced partOutermost piece → Passes typeStops [] piece :=
    fun piece => piece.passes (fun _ => partOutermost_clear) State.wellFormed_initial
      List.not_mem_nil
  generalize same : typeOutermost = outer at balanced
  induction balanced with
  | nil => exact cut
  | char ordinary allowed _ ih =>
    subst same
    have whole := (ih rfl).prepend (passes (.char ordinary allowed .nil))
    simpa using whole
  | quoted quotes quoted _ ih =>
    have whole := (ih same).prepend (passes (.quoted quotes quoted .nil))
    simpa using whole
  | @group outer opener closer inner rest closes notAngle allowed inside _ _ ih =>
    subst same
    by_cases bracket : opener = '['
    · subst bracket
      cases closes
      have whole := TypeCut.bracket inside (by simpa [typeOutermost] using allowed) (ih rfl)
      simpa using whole
    · have piece : Balanced partOutermost (opener :: (inner ++ closer :: [])) :=
        .group closes notAngle (by simpa [partOutermost] using bracket) inside .nil
      have whole := (ih rfl).prepend (passes piece)
      simpa using whole
  | repr reprChars _ ih =>
    have whole := (ih same).prepend (passes (.repr reprChars .nil))
    simpa using whole

theorem typeStops_visible : ∀ c ∈ typeStops, isBlank c = false :=
  List.all_iff_forall_prop.mp (by decide)

/-- A type is split off in front of what ends it, without the blanks around it. -/
theorem splitType?_of_isType {type rest : List Char} (isType : IsType type) (blank : Blank gap)
    (ends : TypeEnds (trimStart rest)) :
    splitType? (gap ++ (type ++ rest)) = some (type, trimStart rest) := by
  obtain ⟨after, blankAfter, same⟩ := exists_eq_append_trimStart rest
  have cut : TypeCut (gap ++ (type ++ (after ++ []))) (trimStart rest) :=
    .prepend (.blank blank typeStops_visible)
      (.of_balanced isType.balanced
        (.prepend (.blank blankAfter typeStops_visible) (.of_typeEnds ends)))
  have found : cutType? (gap ++ (type ++ rest)) =
      some (gap ++ (type ++ (after ++ [])), trimStart rest) := by
    refine cutType?_eq_some_iff.mpr ⟨?_, cut⟩
    rw [List.append_nil, List.append_assoc, List.append_assoc, ← same]
  have trimmed : trim (gap ++ (type ++ (after ++ []))) = type := by
    rw [List.append_nil, trim, trimStart_append_of_blank blank, ← trim,
      trim_append_of_blank isType.trimmed blankAfter]
  simp only [splitType?, found, Option.map_some, trimmed]

/-! ## Reading a default value -/

theorem defaultOutermost_clear : defaultOutermost.Clear defaultStops where
  char := List.all_iff_forall_prop.mp (by decide)
  quote := List.all_iff_forall_prop.mp (by decide)
  group := by simp [defaultStops, closer?, defaultOutermost]
  angle := by decide
  reprChar := List.all_iff_forall_prop.mp (by decide)

theorem leadingBracket?_eq_none {value : List Char}
    (noBracket : ∀ c, value.head? = some c → opensValue c = false) :
    leadingBracket? value = none := by
  cases value with
  | nil => rfl
  | cons c rest => rw [leadingBracket?, noBracket c rfl, if_neg Bool.false_ne_true]

/-- A default value is split off in front of what ends it, without the blanks there. -/
theorem splitDefault?_of_isDefault {value rest : List Char} (isDefault : IsDefault value)
    (blank : Blank gap) (ends : Ends defaultStops (trimStart rest)) :
    ∃ left, splitDefault? (gap ++ (value ++ rest)) = some (value, left) ∧
      trimStart left = trimStart rest := by
  cases isDefault with
  | @bracket opener closer inner opens closes balanced =>
    have found : leadingBracket? (opener :: (inner ++ closer :: rest)) =
        some (opener :: inner ++ [closer], rest) := by
      rw [leadingBracket?, if_pos opens]
      exact skipGroup?_of_balanced closes balanced rest
    refine ⟨rest, ?_, rfl⟩
    have start : trimStart (opener :: (inner ++ closer :: rest)) = _ :=
      trimStart_eq_self (isBlank_of_closer? closes).1
    simp [splitDefault?, trimStart_append_of_blank blank, start, found]
  | expression nonempty trimmed noBracket balanced =>
    have start : trimStart (value ++ rest) = value ++ rest := by
      cases value with
      | nil => exact absurd rfl nonempty
      | cons c value => exact trimStart_eq_self (trimmed.first c rfl)
    have passes : Passes defaultStops [] value :=
      balanced.passes (fun _ => defaultOutermost_clear) State.wellFormed_initial List.not_mem_nil
    have visible : ∀ c ∈ defaultStops, isBlank c = false :=
      List.all_iff_forall_prop.mp (by decide)
    obtain ⟨taken, found, same⟩ := passes.cut? trimmed visible ends
    have noValue : leadingBracket? (value ++ rest) = none := by
      refine leadingBracket?_eq_none fun c first => noBracket c ?_
      rwa [List.head?_append_of_ne_nil _ nonempty] at first
    refine ⟨trimStart rest, ?_, trimStart_trimStart rest⟩
    simp [splitDefault?, trimStart_append_of_blank blank, start, noValue, found, same]

end CallSig.Parse
