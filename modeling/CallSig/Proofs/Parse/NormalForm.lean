import CallSig.Proofs.Bracket.Matching
import CallSig.Proofs.Parse.Expression
import CallSig.Proofs.Parse.Reading

/-!
# The normal form of an argument

The texts of an argument are cut out of a longer text, in which the look-ahead
at a `<` sees what comes behind them. Read again on its own, each of them is
taken whole all the same. `Argument.Normal` says so for all the texts of an
argument, each reader of a turn makes normal arguments of normal ones, and
`normal_of_mem_parseArguments` says that reading a signature, in whatever text
it stands, gives normal arguments only.
-/

namespace CallSig

open CallSig.Bracket CallSig.Text

/-- The name of an argument is whole: a parenthesised group, or a text without a
stop outside brackets and quotes. -/
def WholeName (name : String) : Prop :=
  (name.toList.head? = some '(' ∧ matchingClose? name '(' ')' = some (name.utf8ByteSize - 1)) ∨
    scanTo? name Parse.nameStops = some name.utf8ByteSize

/-- Every text of the argument is taken whole when it is read again. -/
structure Argument.Normal (arg : Argument) : Prop where
  name_ne_empty : arg.name ≠ ""
  name_trimmed : Trimmed arg.name.toList
  name_ne_ellipsis : arg.name ≠ "..."
  name_whole : WholeName arg.name
  type_whole : ∀ type, arg.typeExpr = some type → type ≠ "" ∧ parseType? type = some (type, "")
  default_whole : ∀ value, arg.defaultExpr = some value →
    value ≠ "" ∧ parseDefault? value = some (value, "")

/-- A normal argument stays so when a group makes it optional. -/
theorem Argument.Normal.asOptional {arg : Argument} (normal : arg.Normal) :
    arg.asOptional.Normal where
  name_ne_empty := normal.name_ne_empty
  name_trimmed := normal.name_trimmed
  name_ne_ellipsis := normal.name_ne_ellipsis
  name_whole := normal.name_whole
  type_whole := normal.type_whole
  default_whole := normal.default_whole

namespace Parse

variable {taken left text : List Char}

/-! ## Names -/

/-- An argument of which only the name is known is normal when the name is. -/
theorem normal_of_name {name : List Char} (nonempty : name ≠ []) (trimmed : Trimmed name)
    (notEllipsis : String.ofList name ≠ "...") (whole : WholeName (String.ofList name)) :
    (Argument.named (String.ofList name)).Normal where
  name_ne_empty := by simpa [Argument.named] using nonempty
  name_trimmed := by simpa [Argument.named] using trimmed
  name_ne_ellipsis := notEllipsis
  name_whole := whole
  type_whole := fun _ same => nomatch same
  default_whole := fun _ same => nomatch same

/-- A name that is cut up to its end is whole. -/
theorem wholeName_of_cut? {name : List Char} (found : cut? nameStops name = some (name, [])) :
    WholeName (String.ofList name) := by
  refine .inr ?_
  rw [scanTo?, String.toList_ofList, found, Option.map_some, ← utf8Length_toList,
    String.toList_ofList]

theorem normal_ellipsisName (previous : Option Argument) :
    (Argument.named (ellipsisName previous)).Normal := by
  have either : ellipsisName previous = String.ofList "**kwargs".toList ∨
      ellipsisName previous = String.ofList "**args".toList := by
    unfold ellipsisName
    split
    · split <;> simp
    · simp
  rcases either with same | same <;> rw [same] <;>
    exact normal_of_name (by simp) (trim_eq_self_iff.mp (by decide)) (by simp)
      (wholeName_of_cut? (by decide))

/-- A name that is cut out of a text is normal. -/
theorem normal_named (found : cut? nameStops text = some (taken, left))
    (nonempty : trim taken ≠ []) (previous : Option Argument) :
    (namedArgument previous (String.ofList (trim taken))).Normal := by
  unfold namedArgument
  split
  · exact normal_ellipsisName previous
  · next notEllipsis =>
    exact normal_of_name nonempty (trimmed_trim taken) notEllipsis
      (wholeName_of_cut? (cut?_trim (cut?_taken found)))

/-- A name in parentheses that close is normal. -/
theorem normal_groupedName {inner rest : List Char}
    (split : splitClose? '(' ')' 0 text = some (inner, rest)) :
    (Argument.named (String.ofList ('(' :: inner ++ [')']))).Normal := by
  have trimmed := trimmed_bracket (rfl : closer? '(' = some ')') inner
  refine normal_of_name (by simp) trimmed ?_ (.inl ⟨by simp, ?_⟩)
  · intro same
    have first := congrArg (fun text => text.toList.head?) same
    simp at first
  · have closed : group? '(' ')' ('(' :: inner ++ [')']) = some (inner, []) := by
      rw [List.cons_append, group?, if_pos rfl]
      exact splitClose?_replaceRest split []
    rw [matchingClose?, String.toList_ofList, closed, Option.map_some, ← utf8Length_toList,
      String.toList_ofList, utf8Length_append]
    rfl

/-! ## Types and default values -/

/-- A normal argument stays so with a type that is split off a text. -/
theorem normal_withType {arg : Argument} {type : List Char} (normal : arg.Normal)
    (found : splitType? text = some (type, left)) :
    ({ arg with typeExpr := kept type } : Argument).Normal :=
  { normal with
    type_whole := by
      intro value same
      obtain ⟨nonempty, rfl⟩ := kept_eq_some same
      have again := splitType?_self found
      obtain ⟨taken, -, -, rfl⟩ := splitType?_eq_some_iff.mp found
      rw [trim_trim] at nonempty ⊢
      refine ⟨by simpa using nonempty, ?_⟩
      rw [parseType?, String.toList_ofList, again]
      rfl }

theorem normal_withDefault {arg : Argument} {value : List Char} (normal : arg.Normal)
    (found : splitDefault? text = some (value, left)) :
    ({ arg with defaultExpr := kept value } : Argument).Normal :=
  { normal with
    default_whole := by
      intro text same
      obtain ⟨nonempty, rfl⟩ := kept_eq_some same
      obtain ⟨again, trimmed⟩ := splitDefault?_self found nonempty
      rw [trim_eq_self_iff.mpr trimmed] at nonempty ⊢
      refine ⟨by simpa using nonempty, ?_⟩
      rw [parseDefault?, String.toList_ofList, again]
      rfl }

/-! ## One turn -/

/-- The argument that a turn reads, if it reads one, is normal. -/
def Turn.Normal : Turn → Prop
  | .argument arg _ => arg.Normal
  | _ => True

theorem readDefault_normal {arg : Argument} (normal : arg.Normal) (text : List Char) :
    (readDefault arg text).Normal := by
  unfold readDefault
  split
  · next found => exact normal_withDefault normal found
  · exact normal

theorem readOptionalDefault_normal {arg : Argument} (normal : arg.Normal) (text : List Char) :
    (readOptionalDefault arg text).Normal := by
  unfold readOptionalDefault
  split
  · exact readDefault_normal normal _
  · exact normal

theorem readType_normal {arg : Argument} (normal : arg.Normal) (name : String)
    (text : List Char) : (readType name arg text).Normal := by
  unfold readType
  split
  · next found => exact readOptionalDefault_normal (normal_withType normal found) _
  · exact normal

theorem readAfterName_normal {arg : Argument} (normal : arg.Normal) (name : String)
    (text : List Char) : (readAfterName name arg text).Normal := by
  unfold readAfterName
  split
  · exact readType_normal normal name _
  · exact readDefault_normal normal _
  all_goals exact normal

theorem readNameless_normal (text : List Char) : (readNameless text).Normal := by
  unfold readNameless
  split <;> trivial

theorem readName_normal (previous : Option Argument) (text : List Char) :
    (readName previous text).Normal := by
  unfold readName
  split
  · trivial
  · next taken after found =>
    split
    · exact readNameless_normal _
    · next visible => exact readAfterName_normal (normal_named found visible previous) _ _

theorem readGroup_normal (depth : Nat) (text : List Char) : (readGroup depth text).Normal := by
  unfold readGroup
  split
  · trivial
  · split <;> trivial

theorem readGroupedName_normal (text : List Char) : (readGroupedName text).Normal := by
  unfold readGroupedName
  split
  · trivial
  · next split => exact readOptionalDefault_normal (normal_groupedName split) _

/-- Every argument that a turn reads is normal. -/
theorem Turn.normal_nextTurn (depth : Nat) (previous : Option Argument) (body : List Char) :
    (nextTurn depth previous body).Normal := by
  unfold nextTurn
  split
  · trivial
  · exact readGroup_normal depth _
  · exact readGroupedName_normal _
  · exact readName_normal previous _

end Parse

/-- Every argument that is read of any text is in normal form. -/
theorem normal_of_mem_parseArguments (text : String) :
    ∀ arg ∈ parseArguments text, arg.Normal := by
  refine Parse.forall_mem_parseArguments Argument.Normal
    (fun {depth previous body arg after} found => ?_) Argument.Normal.asOptional text
  have normal := Parse.Turn.normal_nextTurn depth previous body
  rwa [found] at normal

/-- A comparison before a repr, in a group: the look-ahead at the first `<` sees
a `=` and the one at the second a `>`. -/
theorem normal_of_mem_parseArguments_repr :
    (⟨"n", some "a < b", some "<no value>", true⟩ : Argument) ∈
        parseArguments "([n: a < b = <no value>,] m) > 0" ∧
      (⟨"n", some "a < b", some "<no value>", true⟩ : Argument).Normal := by
  have read : (⟨"n", some "a < b", some "<no value>", true⟩ : Argument) ∈
      parseArguments "([n: a < b = <no value>,] m) > 0" := by decide +kernel
  exact ⟨read, normal_of_mem_parseArguments _ _ read⟩

end CallSig
