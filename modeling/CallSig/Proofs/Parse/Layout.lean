import CallSig.Proofs.Parse.Reading
import CallSig.Proofs.Parse.Written

/-!
# Documented signatures

A documented parameter list is a tree: arguments, and optional groups of items
(`Items`). `Spells` says that a text is such a list, with blanks and commas as a
writer may set them, and `Items.print` gives the plainest one.

A list of well-formed arguments is read as it is spelled, up to the number of
groups that may stand inside one another: `parseSignature_of_spells` gives every
argument in its order, with its texts as they are, and optional where it stands
in a group.
-/

namespace CallSig.Parse

open CallSig.Bracket CallSig.Text

/-- The items of a parameter list. -/
inductive Items where
  | nil
  | argument (arg : Argument) (rest : Items)
  | group (inner rest : Items)
  deriving Repr, DecidableEq

namespace Items

/-- The arguments of the list, those in its groups as optional ones. -/
def arguments : Items → List Argument
  | nil => []
  | argument arg rest => arg :: rest.arguments
  | group inner rest => inner.arguments.map (·.asOptional) ++ rest.arguments

/-- The number of groups that stand inside one another. -/
def depth : Items → Nat
  | nil => 0
  | argument _ rest => rest.depth
  | group inner rest => max (inner.depth + 1) rest.depth

def WellFormed : Items → Prop
  | nil => True
  | argument arg rest => Parse.WellFormed arg ∧ rest.WellFormed
  | group inner rest => inner.WellFormed ∧ rest.WellFormed

/-- What is put in front of an item. -/
def separator (first : Bool) : List Char :=
  if first then [] else [',', ' ']

/-- The list with a comma and a blank between its items; the comma in front of a
group stands in the group. -/
def print (first : Bool) : Items → List Char
  | nil => []
  | argument arg rest => separator first ++ (arg.renderBare.toList ++ rest.print false)
  | group inner rest =>
    '[' :: ((separator first ++ inner.print true) ++ ']' :: rest.print false)

end Items

/-- The text is the list as a documentation may write it, with any blanks and
commas in front of an item. -/
inductive Spells : Items → List Char → Prop
  | nil {gap : List Char} : (∀ c ∈ gap, isSeparator c = true) → Spells .nil gap
  | argument {arg : Argument} {rest : Items} {gap text more : List Char} :
    (∀ c ∈ gap, isSeparator c = true) → Writes arg text → Delimited arg more → Spells rest more →
    Spells (.argument arg rest) (gap ++ (text ++ more))
  | group {inner rest : Items} {gap body more : List Char} :
    (∀ c ∈ gap, isSeparator c = true) → Spells inner body → Spells rest more →
    Spells (.group inner rest) (gap ++ '[' :: (body ++ ']' :: more))

variable {items : Items} {arg : Argument} {text gap : List Char}

/-! ## The plainest spelling -/

theorem Spells.prepend (separators : ∀ c ∈ gap, isSeparator c = true) (spells : Spells items text) :
    Spells items (gap ++ text) := by
  have both : ∀ {more : List Char}, (∀ c ∈ more, isSeparator c = true) →
      ∀ c ∈ gap ++ more, isSeparator c = true :=
    fun others c inside => (List.mem_append.mp inside).elim (separators c) (others c)
  cases spells with
  | nil others => exact .nil (both others)
  | argument others writes delimited rest =>
    rw [← List.append_assoc]
    exact .argument (both others) writes delimited rest
  | group others inner rest =>
    rw [← List.append_assoc]
    exact .group (both others) inner rest

theorem Items.isSeparator_of_mem_separator (first : Bool) :
    ∀ c ∈ Items.separator first, isSeparator c = true := by
  cases first <;> exact List.all_iff_forall_prop.mp (by decide)

/-- An argument is shown in one of the ways in which it may be written. -/
theorem writes_renderBare (arg : Argument) : Writes arg arg.renderBare.toList := by
  have blankNone : Blank [] := fun _ inside => nomatch inside
  have blankOne : Blank [' '] := by
    simp only [Blank, List.mem_singleton, forall_eq]
    decide
  have typePart : Part ':' arg.typeExpr (Argument.marked ": " arg.typeExpr).toList := by
    cases arg.typeExpr with
    | none => exact .absent
    | some text =>
      have whole : Part ':' (some text) ([] ++ ':' :: ([' '] ++ text.toList)) :=
        .present blankNone blankOne
      simpa [Argument.marked] using whole
  have defaultPart : Part '=' arg.defaultExpr (Argument.marked " = " arg.defaultExpr).toList := by
    cases arg.defaultExpr with
    | none => exact .absent
    | some text =>
      have whole : Part '=' (some text) ([' '] ++ '=' :: ([' '] ++ text.toList)) :=
        .present blankOne blankOne
      simpa [Argument.marked] using whole
  have whole := Writes.parts typePart defaultPart
  rwa [← List.append_assoc, ← String.toList_append, ← String.toList_append] at whole

/-- The rest of a printed list delimits the argument in front of it. -/
theorem delimited_print (arg : Argument) (rest : Items) : Delimited arg (rest.print false) := by
  cases rest with
  | nil => exact .nil arg
  | argument => exact ⟨rfl, fun _ _ rest same => by cases same⟩
  | group =>
    refine ⟨rfl, fun _ _ rest same => ?_⟩
    cases same
    rfl

/-- The plainest spelling of a list is one. -/
theorem spells_print (items : Items) (first : Bool) : Spells items (items.print first) := by
  induction items generalizing first with
  | nil => exact .nil fun _ inside => nomatch inside
  | argument arg rest ih =>
    exact .argument (Items.isSeparator_of_mem_separator first) (writes_renderBare arg)
      (delimited_print arg rest) (ih false)
  | group inner rest ihInner ihRest =>
    have separators := Items.isSeparator_of_mem_separator first
    have noGap : ∀ c ∈ ([] : List Char), isSeparator c = true := fun _ inside => nomatch inside
    exact .group noGap ((ihInner true).prepend separators) (ihRest false)

/-! ## The brackets of a list -/

variable {opener closer : Char}

theorem neutral_of_isSeparator (pair : StructuralPair opener closer)
    (separators : ∀ c ∈ gap, isSeparator c = true) : Neutral opener closer gap := by
  refine pair.neutral_of_forall fun c inside => ?_
  have separator := separators c inside
  simp only [isSeparator, Bool.or_eq_true, decide_eq_true_eq] at separator
  rcases separator with blank | rfl
  · exact isStructural_of_isOrdinary (isOrdinary_of_isBlank blank)
  · rfl

theorem Part.neutral {mark : Char} {value : Option String} (part : Part mark value text)
    (pair : StructuralPair opener closer) (notStructural : isStructural mark = false)
    (neutral : ∀ text, value = some text → Neutral opener closer text.toList) :
    Neutral opener closer text := by
  cases part with
  | absent => exact .nil
  | @present before gap text blankBefore blankGap =>
    obtain ⟨notOpener, notCloser⟩ := pair.ne_of_not_structural notStructural
    have blank : ∀ {text : List Char}, Blank text → Neutral opener closer text :=
      fun blank => neutral_of_isSeparator pair fun c inside =>
        isSeparator_of_isBlank (blank c inside)
    exact (blank blankBefore).append
      ((Neutral.singleton notOpener notCloser).append ((blank blankGap).append (neutral text rfl)))

theorem IsDefault.neutral (isDefault : IsDefault text) (pair : StructuralPair opener closer) :
    Neutral opener closer text := by
  cases isDefault with
  | bracket _ closes balanced => exact pair.neutral_bracket closes (balanced.neutral pair)
  | expression _ _ _ balanced => exact balanced.neutral pair

/-- The structural matcher goes past a written argument when it goes past each of its
texts. -/
theorem Writes.neutral_of_parts (writes : Writes arg text) (pair : StructuralPair opener closer)
    (name : Neutral opener closer arg.name.toList)
    (type : ∀ text, arg.typeExpr = some text → IsType text.toList)
    (default : ∀ text, arg.defaultExpr = some text → Neutral opener closer text.toList) :
    Neutral opener closer text := by
  rcases writes with ⟨typePart, defaultPart⟩
  exact name.append
    ((typePart.neutral pair rfl fun text same => (type text same).balanced.neutral pair).append
      (defaultPart.neutral pair rfl default))

theorem PlainName.neutral {name : List Char} (plain : PlainName name)
    (pair : StructuralPair opener closer) : Neutral opener closer name :=
  pair.neutral_of_forall fun c inside =>
    isStructural_of_isOrdinary (isOrdinary_of_isNameChar (plain.nameChars c inside))

/-- The structural matcher goes past a written argument that is well-formed. -/
theorem Writes.neutral (writes : Writes arg text) (wellFormed : WellFormed arg)
    (pair : StructuralPair opener closer) : Neutral opener closer text := by
  cases wellFormed with
  | named plain isType isDefault =>
    exact writes.neutral_of_parts pair (plain.neutral pair) isType
      fun text same => (isDefault text same).neutral pair
  | grouped balanced isDefault =>
    have name := pair.neutral_bracket (rfl : closer? '(' = some ')') (balanced.neutral pair)
    exact writes.neutral_of_parts pair (by rwa [String.toList_ofList]) nofun
      fun text same => (isDefault text same).neutral pair

/-- The structural matcher goes past a list at any depth. -/
theorem Spells.neutral (spells : Spells items text) (wellFormed : items.WellFormed)
    (pair : StructuralPair opener closer) : Neutral opener closer text := by
  induction spells with
  | nil separators => exact neutral_of_isSeparator pair separators
  | argument separators writes _ _ ih =>
    exact (neutral_of_isSeparator pair separators).append
      ((writes.neutral wellFormed.1 pair).append (ih wellFormed.2))
  | group separators _ _ ihInner ihRest =>
    have bracket := pair.neutral_bracket (rfl : closer? '[' = some ']') (ihInner wellFormed.1)
    have whole := (neutral_of_isSeparator pair separators).append
      (bracket.append (ihRest wellFormed.2))
    simpa using whole

/-! ## Reading a list -/

theorem any_isVarPositional_asOptional (args : List Argument) :
    (args.map (·.asOptional)).any (·.isVarPositional) = args.any (·.isVarPositional) := by
  simp [List.any_map, Function.comp_def, Argument.isVarPositional_asOptional]

/-- What is read is the arguments, and the flag of those that are variadic. -/
def Reading.Gives (args : List Argument) (reading : Reading) : Prop :=
  reading.args = args ∧ reading.variadic = args.any (·.isVarPositional)

variable {args others : List Argument} {reading second : Reading}

theorem Reading.gives_single (arg : Argument) : (Reading.single arg).Gives [arg] := by
  simp [Reading.Gives, Reading.single]

theorem Reading.Gives.append (first : reading.Gives args) (behind : second.Gives others) :
    (reading ++ second).Gives (args ++ others) := by
  simp [Reading.Gives, first.1, first.2, behind.1, behind.2]

theorem Reading.Gives.asOptional (gives : reading.Gives args) :
    reading.asOptional.Gives (args.map (·.asOptional)) := by
  refine ⟨?_, ?_⟩
  · rw [Reading.args_asOptional, gives.1]
  · rw [any_isVarPositional_asOptional, ← gives.2]
    rfl

variable {arg : Argument} {body more : List Char} {depth : Nat} {previous : Option Argument}

/-- Nothing is read of separators alone. -/
theorem readList_of_isSeparator (separators : ∀ c ∈ text, isSeparator c = true) (depth : Nat)
    (previous : Option Argument) : readList depth previous text = .empty := by
  have same : text.dropWhile isSeparator = [] := List.dropWhile_eq_nil_iff.mpr separators
  have finished : nextTurn depth previous text = .finished := by rw [nextTurn, same]
  rw [readList_eq, finished]

/-- An argument that is read comes first, and the reading goes on behind it. -/
theorem Turn.Reads.readList_eq (reads : (nextTurn depth previous text).Reads arg more) :
    readList depth previous text = .single arg ++ readList depth (some arg) more := by
  obtain ⟨left, turn, same⟩ := reads
  rw [Parse.readList_eq, turn]
  exact congrArg (Reading.single arg ++ ·) (readList_congr same depth (some arg))

/-- The arguments of a group come first, as optional ones. -/
theorem readList_group (neutral : Neutral '[' ']' body) (shallow : depth < maxGroupDepth)
    (previous : Option Argument) (more : List Char) :
    ∃ last, readList depth previous ('[' :: (body ++ ']' :: more)) =
      (readList (depth + 1) none body).asOptional ++ readList depth last more :=
  readList_of_splitClose? shallow (neutral.splitClose? (by decide) more) previous

/-- A list is read as it is spelled, behind any argument and in as many groups
as leave room for its own. -/
theorem readList_of_spells (spells : Spells items text) (wellFormed : items.WellFormed)
    {depth : Nat} (shallow : depth + items.depth ≤ maxGroupDepth) (previous : Option Argument) :
    (readList depth previous text).Gives items.arguments := by
  induction spells generalizing depth previous with
  | nil separators =>
    rw [readList_of_isSeparator separators]
    exact ⟨rfl, rfl⟩
  | argument separators writes delimited _ ih =>
    have reads := nextTurn_of_writes wellFormed.1 writes delimited depth previous
    rw [readList_congr (List.dropWhile_append_of_pos separators), reads.readList_eq]
    exact (Reading.gives_single _).append (ih wellFormed.2 shallow _)
  | @group inner rest gap body more separators spellsInner _ ihInner ihRest =>
    have neutral := spellsInner.neutral wellFormed.1 (.inr ⟨rfl, rfl⟩)
    simp only [Items.depth] at shallow
    have innerShallow : depth + 1 + inner.depth ≤ maxGroupDepth := by omega
    obtain ⟨last, group⟩ := readList_group neutral (by omega : depth < _) previous more
    rw [readList_congr (List.dropWhile_append_of_pos separators), group]
    exact (ihInner wellFormed.1 innerShallow none).asOptional.append
      (ihRest wellFormed.2 (by omega) last)

end Parse

open CallSig.Bracket CallSig.Parse CallSig.Text

/-- A documented signature is read as what it says, however it is spelled and
whatever comes behind it; the plainest spelling is one. -/
theorem parseSignature_of_spells {items : Items} (wellFormed : items.WellFormed)
    (shallow : items.depth ≤ maxGroupDepth) :
    Spells items (items.print true) ∧ ∀ body after : List Char, Spells items body →
      parseSignature (String.ofList ('(' :: (body ++ ')' :: after))) =
        ⟨items.arguments, items.arguments.any (·.isVarPositional)⟩ := by
  refine ⟨spells_print items true, fun body after spells => ?_⟩
  have neutral := spells.neutral wellFormed (.inl ⟨rfl, rfl⟩)
  have list : group? '(' ')' ('(' :: (body ++ ')' :: after)) = some (body, after) := by
    rw [group?, if_pos rfl, neutral.splitClose? (by decide)]
  have gives := readList_of_spells spells wellFormed (by omega : 0 + items.depth ≤ _) none
  simp only [parseSignature, readSignature, String.toList_ofList, list, gives.1, gives.2]

/-- A subscript in a type, a repr, a comma in quotes, a grouped name and a group
in a group. -/
theorem parseSignature_of_spells_nested :
    (Items.argument ⟨"x", some "L[i]", some "<n>", false⟩
      (.group (.argument ⟨"(a)", none, some "','", false⟩
        (.group (.argument ⟨"*r", none, none, false⟩ .nil) .nil)) .nil)).WellFormed ∧
    parseSignature "(x: L[i] = <n>[, (a) = ','[, *r]]) -> t" =
      ⟨[⟨"x", some "L[i]", some "<n>", false⟩, ⟨"(a)", none, some "','", true⟩,
        ⟨"*r", none, none, true⟩], true⟩ := by
  have trimmed : ∀ text ∈ [['x'], "L[i]".toList, "<n>".toList, "*r".toList, "','".toList],
      Trimmed text := by
    simp only [List.forall_mem_cons, ← trim_eq_self_iff]
    decide
  simp only [List.forall_mem_cons] at trimmed
  rcases trimmed with ⟨trimmedX, trimmedType, trimmedRepr, trimmedRest, trimmedQuoted, -⟩
  have isType : IsType "L[i]".toList :=
    ⟨by decide, trimmedType,
      .char rfl rfl (.group rfl (by decide) rfl (.char rfl rfl .nil) .nil)⟩
  have isRepr : IsDefault "<n>".toList := by
    have reprChars : ∀ c ∈ ['n'], isReprChar c = true :=
      List.all_iff_forall_prop.mp (by decide)
    exact .expression (by decide) trimmedRepr (by rintro _ ⟨⟩; rfl) (.repr reprChars .nil)
  have isQuoted : IsDefault "','".toList := by
    have comma : QuotedText '\x27' [','] := .char (by decide) (by decide) rfl .nil
    exact .expression (by decide) trimmedQuoted (by rintro _ ⟨⟩; rfl) (.quoted rfl comma .nil)
  have first : WellFormed ⟨"x", some "L[i]", some "<n>", false⟩ :=
    .named ⟨by decide, trimmedX, List.all_iff_forall_prop.mp (by decide), by decide⟩
      (by rintro _ ⟨⟩; exact isType) (by rintro _ ⟨⟩; exact isRepr)
  have second : WellFormed ⟨"(a)", none, some "','", false⟩ :=
    .grouped (.char rfl rfl .nil) (by rintro _ ⟨⟩; exact isQuoted)
  have third : WellFormed ⟨"*r", none, none, false⟩ :=
    .named ⟨by decide, trimmedRest, List.all_iff_forall_prop.mp (by decide), by decide⟩ nofun nofun
  have wellFormed : (Items.argument ⟨"x", some "L[i]", some "<n>", false⟩
      (.group (.argument ⟨"(a)", none, some "','", false⟩
        (.group (.argument ⟨"*r", none, none, false⟩ .nil) .nil)) .nil)).WellFormed :=
    ⟨first, ⟨second, ⟨third, trivial⟩, trivial⟩, trivial⟩
  obtain ⟨spells, reads⟩ := parseSignature_of_spells wellFormed (by decide)
  have read := reads _ " -> t".toList spells
  refine ⟨wellFormed, Eq.trans (congrArg parseSignature ?_) (read.trans ?_)⟩
  · decide +kernel
  · decide +kernel

end CallSig
