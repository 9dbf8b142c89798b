import CallSig.Proofs.Parse.Layout

/-!
# Signatures that their own text gives back

`Signature.render` puts square brackets around every optional argument by itself,
and a `, ` between any two arguments. `parseSignature_render` says that the
signature is read back from that text, whatever comes behind it, when its
arguments are `Legible`: plain names with a type and a default value that delimit
themselves, or grouped names whose brackets are nested.

A rendered argument is delimited by the comma behind it, or by the end of the
list or of its own group, so one step of the induction over the arguments reads
one of them and leaves the rest as it stands (`Legible.readList_render`).
-/

namespace CallSig.Parse

open CallSig.Bracket CallSig.Text

variable {arg : Argument} {args : List Argument} {text more : List Char} {opener closer : Char}

/-! ## Legible arguments -/

/-- A text whose parentheses and square brackets are closed in the order in which
they open. Any other character stands for itself, quotes among them. -/
inductive Nested : List Char → Prop
  | nil : Nested []
  | char {c : Char} {rest : List Char} : isStructural c = false → Nested rest → Nested (c :: rest)
  | bracket {opener closer : Char} {inner rest : List Char} : StructuralPair opener closer →
    Nested inner → Nested rest → Nested (opener :: (inner ++ closer :: rest))

/-- The structural matcher goes past a nested text at any depth. -/
theorem Nested.neutral (nested : Nested text) (pair : StructuralPair opener closer) :
    Neutral opener closer text := by
  induction nested with
  | nil => exact .nil
  | char other _ ih =>
    obtain ⟨notOpener, notCloser⟩ := pair.ne_of_not_structural other
    exact (Neutral.singleton notOpener notCloser).append ih
  | @bracket first last inner rest bracket _ _ ihInner ihRest =>
    have closes : closer? first = some last := by
      rcases bracket with ⟨rfl, rfl⟩ | ⟨rfl, rfl⟩ <;> rfl
    have whole := (pair.neutral_bracket closes ihInner).append ihRest
    simpa using whole

/-- An argument that can be read back from its text. -/
inductive Legible : Argument → Prop
  | named {name : String} {type default : Option String} {optional : Bool} :
    PlainName name.toList → (∀ text, type = some text → IsType text.toList) →
    (∀ text, default = some text → IsDefault text.toList) →
    Legible ⟨name, type, default, optional⟩
  | grouped {inner : List Char} {default : Option String} {optional : Bool} : Nested inner →
    (∀ text, default = some text → IsDefault text.toList) →
    Legible ⟨String.ofList ('(' :: (inner ++ [')'])), none, default, optional⟩

/-- The structural matcher goes past a legible argument. -/
theorem Legible.neutral_renderBare (legible : Legible arg) (pair : StructuralPair opener closer) :
    Neutral opener closer arg.renderBare.toList := by
  have writes := writes_renderBare arg
  cases legible with
  | named plain isType isDefault =>
    exact writes.neutral_of_parts pair (plain.neutral pair) isType
      fun text same => (isDefault text same).neutral pair
  | grouped nested isDefault =>
    have name := pair.neutral_bracket (rfl : closer? '(' = some ')') (nested.neutral pair)
    exact writes.neutral_of_parts pair (by rwa [String.toList_ofList]) nofun
      fun text same => (isDefault text same).neutral pair

theorem Legible.neutral_render (legible : Legible arg) (pair : StructuralPair opener closer) :
    Neutral opener closer arg.render.toList := by
  have bare := legible.neutral_renderBare pair
  rw [Argument.render]
  split
  · simpa using pair.neutral_bracket (rfl : closer? '[' = some ']') bare
  · exact bare

/-! ## Reading one argument -/

/-- The argument as one that has to be given. -/
def required (arg : Argument) : Argument :=
  { arg with optional := false }

/-- A legible argument is read back, without the flag that its group stands for. -/
theorem Legible.nextTurn_renderBare (legible : Legible arg) (delimited : Delimited arg more)
    (depth : Nat) (previous : Option Argument) :
    (nextTurn depth previous (arg.renderBare.toList ++ more)).Reads (required arg) more := by
  have writes := writes_renderBare (required arg)
  cases legible with
  | named plain isType isDefault =>
    exact nextTurn_of_writes (.named plain isType isDefault) writes
      ⟨delimited.ends, delimited.group⟩ depth previous
  | grouped nested isDefault =>
    exact nextTurn_groupedName (nested.neutral (.inl ⟨rfl, rfl⟩))
      (fun text same => (isDefault text same).takenWhole) writes delimited.ends depth previous

/-- An argument is read as it is rendered, and the reading goes on behind it. -/
theorem Legible.readList_render (legible : Legible arg) (delimited : Delimited arg more)
    (behind : ∀ previous, (readList 0 previous more).Gives args) (previous : Option Argument) :
    (readList 0 previous (arg.render.toList ++ more)).Gives (arg :: args) := by
  rcases arg with ⟨name, type, default, _ | _⟩
  · have reads := legible.nextTurn_renderBare delimited 0 previous
    rw [Argument.render, if_neg Bool.false_ne_true, reads.readList_eq]
    exact (Reading.gives_single _).append (behind _)
  · -- The group holds this argument alone and makes it optional again.
    have neutral := legible.neutral_renderBare (.inr ⟨rfl, rfl⟩ : StructuralPair '[' ']')
    have alone := legible.nextTurn_renderBare (.nil _) 1 none
    have text : ∀ bare : String, ("[" ++ bare ++ "]").toList ++ more =
        '[' :: (bare.toList ++ ']' :: more) := by simp
    rw [List.append_nil] at alone
    obtain ⟨last, group⟩ := readList_group neutral (by decide : 0 < _) previous more
    rw [Argument.render, if_pos rfl, text, group, alone.readList_eq,
      readList_of_isSeparator (List.forall_mem_nil _)]
    exact ((Reading.gives_single _).append ⟨rfl, rfl⟩).asOptional.append (behind last)

/-! ## Reading the list -/

/-- The rendered arguments as they stand behind another one. -/
def renderBehind (args : List Argument) : List Char :=
  args.flatMap fun arg => ',' :: ' ' :: arg.render.toList

theorem renderBehind_cons (arg : Argument) (args : List Argument) :
    renderBehind (arg :: args) =
      Items.separator false ++ (arg.render.toList ++ renderBehind args) := by
  simp [renderBehind, Items.separator]

/-- A list is shown as its first argument and those behind it. -/
theorem toList_intercalate_render (arg : Argument) (args : List Argument) :
    (", ".intercalate ((arg :: args).map Argument.render)).toList =
      arg.render.toList ++ renderBehind args := by
  induction args generalizing arg with
  | nil => simp [renderBehind]
  | cons next args ih =>
    have rest := ih next
    rw [renderBehind_cons, ← rest]
    simp [Items.separator]

theorem delimited_renderBehind (arg : Argument) (args : List Argument) :
    Delimited arg (renderBehind args) := by
  cases args with
  | nil => exact .nil arg
  | cons next rest =>
    rw [renderBehind_cons]
    exact ⟨rfl, fun _ _ rest same => by cases same⟩

theorem neutral_renderBehind (legible : ∀ arg ∈ args, Legible arg)
    (pair : StructuralPair opener closer) : Neutral opener closer (renderBehind args) := by
  induction args with
  | nil => exact .nil
  | cons arg args ih =>
    rw [List.forall_mem_cons] at legible
    rw [renderBehind_cons]
    exact (neutral_of_isSeparator pair (Items.isSeparator_of_mem_separator false)).append
      ((legible.1.neutral_render pair).append (ih legible.2))

/-- The arguments behind the first one are read back. -/
theorem readList_renderBehind (legible : ∀ arg ∈ args, Legible arg)
    (previous : Option Argument) : (readList 0 previous (renderBehind args)).Gives args := by
  induction args generalizing previous with
  | nil =>
    rw [renderBehind, List.flatMap_nil, readList_of_isSeparator (List.forall_mem_nil _)]
    exact ⟨rfl, rfl⟩
  | cons arg args ih =>
    rw [List.forall_mem_cons] at legible
    rw [renderBehind_cons, readList_congr
      (List.dropWhile_append_of_pos (Items.isSeparator_of_mem_separator false))]
    exact legible.1.readList_render (delimited_renderBehind arg args) (ih legible.2) previous

/-- The rendered arguments are closed in themselves, and are read as they are. -/
theorem reads_intercalate_render (legible : ∀ arg ∈ args, Legible arg) :
    Neutral '(' ')' (", ".intercalate (args.map Argument.render)).toList ∧
    (readList 0 none (", ".intercalate (args.map Argument.render)).toList).Gives args := by
  cases args with
  | nil => exact ⟨.nil, readList_renderBehind legible none⟩
  | cons arg args =>
    rw [List.forall_mem_cons] at legible
    have pair : StructuralPair '(' ')' := .inl ⟨rfl, rfl⟩
    rw [toList_intercalate_render]
    exact ⟨(legible.1.neutral_render pair).append (neutral_renderBehind legible.2 pair),
      legible.1.readList_render (delimited_renderBehind arg args)
        (readList_renderBehind legible.2) none⟩

end Parse

open CallSig.Bracket CallSig.Parse CallSig.Text

/-- A signature of legible arguments is read back from its text, whatever comes
behind it. -/
theorem parseSignature_render {signature : Signature}
    (legible : ∀ arg ∈ signature.args, Legible arg)
    (flag : signature.variadic = signature.args.any (·.isVarPositional)) (after : String) :
    parseSignature (signature.render ++ after) = signature := by
  obtain ⟨neutral, gives⟩ := reads_intercalate_render legible
  generalize body : ", ".intercalate (signature.args.map Argument.render) = text at neutral gives
  have chars : (signature.render ++ after).toList =
      '(' :: (text.toList ++ ')' :: after.toList) := by
    simp [Signature.render, body]
  have list : group? '(' ')' (signature.render ++ after).toList =
      some (text.toList, after.toList) := by
    rw [chars, group?, if_pos rfl, neutral.splitClose? (by decide)]
  simp only [parseSignature, readSignature, list, gives.1, gives.2, ← flag]

/-- A type in front of a group, a list as the default value of a grouped name in a
group, and an apostrophe in the name. -/
theorem parseSignature_render_list :
    (∀ arg ∈ [⟨"x", some "L[i]", none, false⟩, ⟨"(a's, b)", none, some "[1, 2]", true⟩,
      ⟨"*r", none, none, true⟩], Legible arg) ∧
    parseSignature "(x: L[i], [(a's, b) = [1, 2]], [*r]) -> t" =
      ⟨[⟨"x", some "L[i]", none, false⟩, ⟨"(a's, b)", none, some "[1, 2]", true⟩,
        ⟨"*r", none, none, true⟩], true⟩ := by
  have trimmed : ∀ text ∈ ["x".toList, "L[i]".toList, "*r".toList], Trimmed text := by
    simp only [List.forall_mem_cons, ← trim_eq_self_iff]
    decide
  simp only [List.forall_mem_cons] at trimmed
  rcases trimmed with ⟨trimmedX, trimmedType, trimmedRest, -⟩
  have isType : IsType "L[i]".toList :=
    ⟨by decide, trimmedType,
      .char rfl rfl (.group rfl (by decide) rfl (.char rfl rfl .nil) .nil)⟩
  have isList : IsDefault "[1, 2]".toList :=
    @IsDefault.bracket '[' ']' "1, 2".toList rfl rfl
      (.char rfl rfl (.char rfl rfl (.char rfl rfl (.char rfl rfl .nil))))
  have nested : Nested "a's, b".toList :=
    .char rfl (.char rfl (.char rfl (.char rfl (.char rfl (.char rfl .nil)))))
  have first : Legible ⟨"x", some "L[i]", none, false⟩ :=
    .named ⟨by decide, trimmedX, List.all_iff_forall_prop.mp (by decide), by decide⟩
      (by rintro _ ⟨⟩; exact isType) nofun
  have second : Legible ⟨"(a's, b)", none, some "[1, 2]", true⟩ :=
    .grouped nested (by rintro _ ⟨⟩; exact isList)
  have third : Legible ⟨"*r", none, none, true⟩ :=
    .named ⟨by decide, trimmedRest, List.all_iff_forall_prop.mp (by decide), by decide⟩ nofun nofun
  have legible : ∀ arg ∈ [⟨"x", some "L[i]", none, false⟩,
      ⟨"(a's, b)", none, some "[1, 2]", true⟩, ⟨"*r", none, none, true⟩], Legible arg := by
    simp only [List.forall_mem_cons]
    exact ⟨first, second, third, nofun⟩
  have read := @parseSignature_render ⟨_, true⟩ legible (by decide) " -> t"
  refine ⟨legible, Eq.trans (congrArg parseSignature ?_) read⟩
  decide +kernel

end CallSig
