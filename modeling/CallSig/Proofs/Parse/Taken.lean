import CallSig.Proofs.Bracket.Matching
import CallSig.Proofs.Parse.Expression
import CallSig.Proofs.Parse.Reading

/-!
# What a turn takes off a list

A turn that reads an argument takes a text off the list in which the name, the
type and the default value stand one behind the other (`StandsIn`); an ellipsis
stands for the name of a catch-all. `Turn.takes_nextTurn` says so for every turn,
with what is taken and what is left making up the list.

So every text of an argument is a stretch of the list (`Argument.CopiedFrom`), and a
reading has no character that its text does not have.
-/

namespace CallSig.Parse

open CallSig.Bracket CallSig.Text

/-- A part of an argument, if it is there, is a stretch of the text. -/
def PartIn (part : Option String) (text : List Char) : Prop :=
  ∀ value, part = some value →
    value.toList ≠ [] ∧ ∃ before after, text = before ++ (value.toList ++ after)

/-- The text is what stands for a name: the name, or the ellipsis that a
catch-all is read from. -/
def WrittenAs (name : String) (text : List Char) : Prop :=
  text = name.toList ∨ text = ['.', '.', '.'] ∧ (name = "**args" ∨ name = "**kwargs")

/-- The texts of an argument stand in the text one behind the other. -/
inductive StandsIn : Argument → List Char → Prop
  | parts {name : String} {type default : Option String}
    {gap written typeText defaultText : List Char} :
    WrittenAs name written → written ≠ [] → PartIn type typeText → PartIn default defaultText →
    StandsIn ⟨name, type, default, false⟩ (gap ++ (written ++ (typeText ++ defaultText)))

/-- What is left to be read after an argument. -/
def After.rest : After → List Char
  | .more rest => rest
  | .finished => []
  | .abandoned _ => []

/-! ## Parts -/

variable {part : Option String} {text value taken rest : List Char}

theorem PartIn.none (text : List Char) : PartIn none text :=
  fun _ same => nomatch same

theorem PartIn.append (inText : PartIn part text) (before : List Char) :
    PartIn part (before ++ text) := by
  intro value same
  obtain ⟨nonempty, front, back, rfl⟩ := inText value same
  exact ⟨nonempty, before ++ front, back, by simp⟩

/-- What is kept of a text is a stretch of it. -/
theorem partIn_kept (text : List Char) : PartIn (kept text) text := by
  intro value same
  obtain ⟨nonempty, rfl⟩ := kept_eq_some same
  obtain ⟨before, after, -, -, whole⟩ := exists_eq_append_trim text
  rw [String.toList_ofList]
  exact ⟨nonempty, before, after, by rw [← List.append_assoc, ← whole]⟩

/-- A type that is split off stands in front of what is left. -/
theorem partIn_of_splitType? (found : splitType? text = some (value, rest)) :
    ∃ taken, text = taken ++ rest ∧ PartIn (kept value) taken := by
  obtain ⟨taken, whole, -, rfl⟩ := splitType?_eq_some_iff.mp found
  rw [kept_trim]
  exact ⟨taken, whole, partIn_kept taken⟩

theorem partIn_of_splitDefault? (found : splitDefault? text = some (value, rest)) :
    ∃ taken, text = taken ++ rest ∧ PartIn (kept value) taken := by
  obtain ⟨before, -, start⟩ := exists_eq_append_trimStart text
  rcases splitDefault?_eq_some found with leading | ⟨-, taken, cut, rfl⟩
  · obtain ⟨_, _, _, -, -, -, skipped⟩ := leadingBracket?_eq_some leading
    rw [skipGroup?_eq_some skipped, ← List.append_assoc] at start
    exact ⟨before ++ value, start, (partIn_kept value).append before⟩
  · rw [cut?_eq_some cut, ← List.append_assoc] at start
    rw [kept_trim]
    exact ⟨before ++ taken, start, (partIn_kept taken).append before⟩

theorem StandsIn.prepend {arg : Argument} (standsIn : StandsIn arg text) (gap : List Char) :
    StandsIn arg (gap ++ text) := by
  rcases standsIn with ⟨writtenAs, nonempty, inType, inDefault⟩
  rw [← List.append_assoc]
  exact .parts writtenAs nonempty inType inDefault

/-! ## Behind a name -/

variable {type : Option String} (name : String)

/-- The turn reads the named argument, with a type and a default value that
stand in the text one behind the other. -/
def Turn.TakesParts (name : String) (text : List Char) (turn : Turn) : Prop :=
  ∃ type default after typeText defaultText, turn = .argument ⟨name, type, default, false⟩ after ∧
    text = typeText ++ (defaultText ++ after.rest) ∧ PartIn type typeText ∧
    PartIn default defaultText

theorem Turn.TakesParts.prepend {name : String} {turn : Turn} (parts : turn.TakesParts name text)
    (gap : List Char) : turn.TakesParts name (gap ++ text) := by
  rcases parts with ⟨type, default, after, typeText, defaultText, rfl, rfl, inType, inDefault⟩
  exact ⟨type, default, after, gap ++ typeText, defaultText, rfl, by simp, inType.append gap,
    inDefault⟩

/-- A default value stands behind its `=`. -/
theorem readDefault_takes (inTaken : PartIn type taken) (text : List Char) :
    (readDefault ⟨name, type, none, false⟩ text).TakesParts name (taken ++ '=' :: text) := by
  unfold readDefault
  split
  · next value rest found =>
    obtain ⟨valueText, rfl, inValue⟩ := partIn_of_splitDefault? found
    exact ⟨type, kept value, .more rest, taken, '=' :: valueText, rfl, rfl, inTaken,
      inValue.append ['=']⟩
  · exact ⟨type, none, _, taken, '=' :: text, rfl, by simp [After.rest], inTaken, .none _⟩

/-- A default value, if there is one, stands behind the type. -/
theorem readOptionalDefault_takes (inTaken : PartIn type taken) (text : List Char) :
    (readOptionalDefault ⟨name, type, none, false⟩ text).TakesParts name (taken ++ text) := by
  unfold readOptionalDefault
  split
  · exact readDefault_takes name inTaken _
  · exact ⟨type, none, .more text, taken, [], rfl, rfl, inTaken, .none []⟩

/-- A type stands behind its `:`. -/
theorem readType_takes (written : String) (text : List Char) :
    (readType written ⟨name, none, none, false⟩ text).TakesParts name (':' :: text) := by
  unfold readType
  split
  · next found =>
    obtain ⟨typeText, rfl, inType⟩ := partIn_of_splitType? found
    exact readOptionalDefault_takes name (inType.append [':']) _
  · exact ⟨none, none, _, ':' :: text, [], rfl, by simp [After.rest], .none _, .none []⟩

/-- The type and the default value stand behind the name. -/
theorem readAfterName_takes (written : String) (text : List Char) :
    (readAfterName written ⟨name, none, none, false⟩ text).TakesParts name text := by
  unfold readAfterName
  split
  · exact readType_takes name written _
  · exact readDefault_takes name (PartIn.none []) _
  · next rest => exact ⟨none, none, _, ')' :: rest, [], rfl, by simp [After.rest], .none _, .none _⟩
  · exact ⟨none, none, _, [], [], rfl, rfl, .none _, .none _⟩
  · next rest => exact ⟨none, none, _, [], [], rfl, rfl, .none _, .none _⟩
  · next c rest _ _ _ _ => exact ⟨none, none, _, [c], [], rfl, rfl, .none _, .none _⟩

/-! ## A turn -/

/-- What a turn takes off a list, and what it leaves of it. -/
def Turn.Takes (body : List Char) : Turn → Prop
  | .argument arg after => ∃ taken, body = taken ++ after.rest ∧ StandsIn arg taken
  | .skip rest => ∃ taken, body = taken ++ rest
  | .group inner rest => ∃ gap, body = gap ++ '[' :: (inner ++ ']' :: rest)
  | .finished => True
  | .abandoned _ => True

theorem Turn.Takes.prepend {turn : Turn} {body : List Char} (takes : turn.Takes body)
    (gap : List Char) : turn.Takes (gap ++ body) := by
  cases turn with
  | finished => trivial
  | abandoned => trivial
  | skip rest =>
    rcases takes with ⟨taken, rfl⟩
    exact ⟨gap ++ taken, by simp⟩
  | group inner rest =>
    rcases takes with ⟨front, rfl⟩
    exact ⟨gap ++ front, by simp⟩
  | argument arg after =>
    rcases takes with ⟨taken, rfl, standsIn⟩
    exact ⟨gap ++ taken, by simp, standsIn.prepend gap⟩

/-- A name and what is read behind it make up an argument. -/
theorem Turn.TakesParts.takes {name : String} {turn : Turn} {written : List Char}
    (parts : turn.TakesParts name text) (writtenAs : WrittenAs name written)
    (nonempty : written ≠ []) : turn.Takes (written ++ text) := by
  rcases parts with ⟨type, default, after, typeText, defaultText, rfl, rfl, inType, inDefault⟩
  have standsIn : StandsIn ⟨name, type, default, false⟩
      ([] ++ (written ++ (typeText ++ defaultText))) :=
    .parts writtenAs nonempty inType inDefault
  exact ⟨_, by simp, standsIn⟩

/-- An argument has the name that is written, or the one that an ellipsis is given. -/
theorem namedArgument_eq (previous : Option Argument) (text : String) :
    ∃ name, namedArgument previous text = ⟨name, none, none, false⟩ ∧
      WrittenAs name text.toList := by
  unfold namedArgument
  split
  · next ellipsis =>
    subst ellipsis
    refine ⟨_, rfl, .inr ⟨rfl, ?_⟩⟩
    unfold ellipsisName
    split
    · split <;> simp
    · simp
  · exact ⟨text, rfl, .inl rfl⟩

/-- What is cut for a name is the name and blanks around it. -/
theorem exists_written (previous : Option Argument) (taken after : List Char) :
    ∃ before behind name, taken ++ after = before ++ (trim taken ++ (behind ++ after)) ∧
      namedArgument previous (String.ofList (trim taken)) = ⟨name, none, none, false⟩ ∧
      WrittenAs name (trim taken) := by
  obtain ⟨before, behind, -, -, whole⟩ := exists_eq_append_trim taken
  obtain ⟨name, same, writtenAs⟩ := namedArgument_eq previous (String.ofList (trim taken))
  rw [String.toList_ofList] at writtenAs
  refine ⟨before, behind, name, ?_, same, writtenAs⟩
  rw [← List.append_assoc, ← List.append_assoc, ← whole]

theorem readNameless_takes (text : List Char) : (readNameless text).Takes text := by
  unfold readNameless
  split
  · trivial
  · trivial
  · trivial
  · next c rest _ _ => exact ⟨[c], rfl⟩

/-- A name and what is read behind it are taken from where they stand. -/
theorem readName_takes (previous : Option Argument) (text : List Char) :
    (readName previous text).Takes text := by
  unfold readName
  split
  · trivial
  · next taken after found =>
    rw [cut?_eq_some found]
    split
    · exact (readNameless_takes after).prepend taken
    · next visible =>
      obtain ⟨before, behind, name, shape, same, writtenAs⟩ := exists_written previous taken after
      have parts := (readAfterName_takes name (String.ofList (trim taken)) after).prepend behind
      rw [same, shape]
      exact (parts.takes writtenAs visible).prepend before

/-- The inside of a group and what is left stand in the list. -/
theorem readGroup_takes (depth : Nat) (text : List Char) :
    (readGroup depth text).Takes ('[' :: text) := by
  unfold readGroup
  split
  · trivial
  · split
    · trivial
    · next found => exact ⟨[], by rw [splitClose?_eq_some found]; rfl⟩

theorem readGroupedName_takes (text : List Char) :
    (readGroupedName text).Takes ('(' :: text) := by
  unfold readGroupedName
  split
  · trivial
  · next inner rest found =>
    obtain ⟨before, -, whole⟩ := exists_eq_append_trimStart rest
    have parts := (readOptionalDefault_takes (String.ofList ('(' :: inner ++ [')']))
      (PartIn.none []) (trimStart rest)).prepend before
    rw [List.nil_append, ← whole] at parts
    have takes := parts.takes (.inl String.toList_ofList.symm) (by simp)
    have shape : '(' :: (inner ++ ')' :: rest) = '(' :: inner ++ [')'] ++ rest := by simp
    rw [splitClose?_eq_some found, shape]
    exact takes

/-- What a turn takes and what it leaves make up the list, and an argument that
it reads stands in what it takes. -/
theorem Turn.takes_nextTurn (depth : Nat) (previous : Option Argument) (body : List Char) :
    (nextTurn depth previous body).Takes body := by
  suffices takes : (nextTurn depth previous body).Takes (body.dropWhile isSeparator) by
    have whole := takes.prepend (body.takeWhile isSeparator)
    rwa [List.takeWhile_append_dropWhile] at whole
  unfold nextTurn
  split
  · trivial
  · next rest same =>
    rw [same]
    exact readGroup_takes depth rest
  · next rest same =>
    rw [same]
    exact readGroupedName_takes rest
  · next c rest _ _ same =>
    rw [same]
    exact readName_takes previous _

/-- An argument that stands in a text is not optional before a group makes it so. -/
theorem StandsIn.required {arg : Argument} (standsIn : StandsIn arg text) :
    arg.optional = false := by
  cases standsIn
  rfl

/-- A turn reads an argument that is not optional. -/
theorem required_of_nextTurn {depth : Nat} {previous : Option Argument} {body : List Char}
    {arg : Argument} {after : After} (turn : nextTurn depth previous body = .argument arg after) :
    arg.optional = false := by
  have takes := Turn.takes_nextTurn depth previous body
  rw [turn] at takes
  obtain ⟨taken, -, standsIn⟩ := takes
  exact standsIn.required

end CallSig.Parse

/-! ## The arguments of a list -/

namespace CallSig

/-- The texts of the argument are stretches of the text; the name of a catch-all
may stand for an ellipsis. -/
structure Argument.CopiedFrom (arg : Argument) (text : List Char) : Prop where
  name : arg.name.toList <:+: text ∨ arg.name = "**args" ∨ arg.name = "**kwargs"
  type : ∀ value, arg.typeExpr = some value → value.toList <:+: text
  default : ∀ value, arg.defaultExpr = some value → value.toList <:+: text

theorem Argument.CopiedFrom.mono {arg : Argument} {text whole : List Char}
    (copied : arg.CopiedFrom text) (isInfix : text <:+: whole) : arg.CopiedFrom whole where
  name := copied.name.imp_left (·.trans isInfix)
  type := fun value same => (copied.type value same).trans isInfix
  default := fun value same => (copied.default value same).trans isInfix

namespace Parse

open CallSig.Bracket

theorem PartIn.isInfix {part : Option String} {text : List Char} (inText : PartIn part text) :
    ∀ value, part = some value → value.toList <:+: text := by
  intro value same
  obtain ⟨-, before, after, rfl⟩ := inText value same
  exact ⟨before, after, List.append_assoc _ _ _⟩

/-- An argument that stands in a text is copied from it. -/
theorem StandsIn.copiedFrom {arg : Argument} {text : List Char} (standsIn : StandsIn arg text) :
    arg.CopiedFrom text := by
  obtain @⟨name, type, default, gap, written, typeText, defaultText, writtenAs, -, inType,
    inDefault⟩ := standsIn
  have typeInfix : typeText <:+: gap ++ (written ++ (typeText ++ defaultText)) :=
    ⟨gap ++ written, defaultText, by simp⟩
  have defaultInfix : defaultText <:+: gap ++ (written ++ (typeText ++ defaultText)) :=
    ⟨gap ++ (written ++ typeText), [], by simp⟩
  refine ⟨?_, fun value same => (inType.isInfix value same).trans typeInfix,
    fun value same => (inDefault.isInfix value same).trans defaultInfix⟩
  rcases writtenAs with rfl | ⟨-, ellipsis⟩
  · exact .inl ⟨gap, typeText ++ defaultText, by simp⟩
  · exact .inr ellipsis

/-- What is read of a list is copied from it. -/
theorem copiedFrom_of_mem_readList (depth : Nat) (previous : Option Argument) (body : List Char) :
    ∀ arg ∈ (readList depth previous body).args, arg.CopiedFrom body := by
  have takes := Turn.takes_nextTurn depth previous body
  fun_induction readList depth previous body with
  | case1 depth previous body turn => exact List.forall_mem_nil _
  | case2 depth previous body why turn => exact List.forall_mem_nil _
  | case3 depth previous body rest turn ih =>
    rw [turn] at takes
    rcases takes with ⟨taken, rfl⟩
    exact fun arg inside => (ih (Turn.takes_nextTurn _ _ _) arg inside).mono
      (List.suffix_append taken rest).isInfix
  | case4 depth previous body inner rest turn group ihInner ihRest =>
    rw [turn] at takes
    rcases takes with ⟨gap, rfl⟩
    intro arg inside
    rw [Reading.args_append, List.mem_append, Reading.args_asOptional, List.mem_map] at inside
    rcases inside with ⟨arg, inGroup, rfl⟩ | inRest
    · have innerInfix : inner <:+: gap ++ '[' :: (inner ++ ']' :: rest) :=
        ⟨gap ++ ['['], ']' :: rest, by simp⟩
      have copied := (ihInner (Turn.takes_nextTurn _ _ _) arg inGroup).mono innerInfix
      exact ⟨copied.name, copied.type, copied.default⟩
    · exact (ihRest (Turn.takes_nextTurn _ _ _) arg inRest).mono
        ⟨gap ++ '[' :: (inner ++ [']']), [], by simp⟩
  | case5 depth previous body arg turn =>
    rw [turn] at takes
    rcases takes with ⟨taken, rfl, standsIn⟩
    intro other inside
    cases List.mem_singleton.mp inside
    exact standsIn.copiedFrom.mono (List.prefix_append taken _).isInfix
  | case6 depth previous body arg why turn =>
    rw [turn] at takes
    rcases takes with ⟨taken, rfl, standsIn⟩
    intro other inside
    cases List.mem_singleton.mp inside
    exact standsIn.copiedFrom.mono (List.prefix_append taken _).isInfix
  | case7 depth previous body arg rest turn ih =>
    rw [turn] at takes
    rcases takes with ⟨taken, rfl, standsIn⟩
    intro other inside
    rcases List.mem_cons.mp inside with rfl | later
    · exact standsIn.copiedFrom.mono (List.prefix_append taken _).isInfix
    · exact (ih (Turn.takes_nextTurn _ _ _) other later).mono
        (List.suffix_append taken rest).isInfix

end Parse

/-- The arguments of a signature are copied from it, the names of ellipses apart. -/
theorem copiedFrom_of_mem_parseArguments {text : String} {arg : Argument}
    (inside : arg ∈ parseArguments text) : arg.CopiedFrom text.toList := by
  simp only [parseArguments, parseSignature, Parse.readSignature] at inside
  split at inside
  · next body after list =>
    have copied := Parse.copiedFrom_of_mem_readList 0 none body arg inside
    rw [Bracket.group?_eq_some list]
    exact copied.mono ⟨['('], ')' :: after, by simp⟩
  · split at inside <;> cases inside

end CallSig
