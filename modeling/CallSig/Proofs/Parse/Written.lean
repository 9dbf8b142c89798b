import CallSig.Proofs.Parse.WellFormed

/-!
# Reading a written parameter

An argument is written as its name, its type behind a `:` and its default value
behind a `=`, with any blanks around the two marks (`Writes`). Behind it the list
ends, or a `,` or an optional group comes (`Delimited`). One turn reads a
well-formed argument that is so written and delimited, and leaves what is behind
it up to separators (`nextTurn_of_writes`).
-/

namespace CallSig.Parse

open CallSig.Bracket CallSig.Text

variable {arg : Argument} {text type value more : List Char}

/-- A part of an argument with its mark in front of it and blanks around the
mark; nothing for a part that is left out. -/
inductive Part (mark : Char) : Option String → List Char → Prop
  | absent : Part mark none []
  | present {before gap : List Char} {text : String} : Blank before → Blank gap →
    Part mark (some text) (before ++ mark :: (gap ++ text.toList))

/-- The text is the argument as a documentation may write it. -/
inductive Writes : Argument → List Char → Prop
  | parts {arg : Argument} {type value : List Char} : Part ':' arg.typeExpr type →
    Part '=' arg.defaultExpr value → Writes arg (arg.name.toList ++ (type ++ value))

/-- What may come behind an argument: the end of the list, a `,`, or a group.
Behind a type only a group that starts with a `,` is told from a subscript. -/
structure Delimited (arg : Argument) (more : List Char) : Prop where
  ends : Ends [',', '['] (trimStart more)
  group : arg.typeExpr ≠ none → arg.defaultExpr = none →
    ∀ rest, trimStart more = '[' :: rest → startsOptionalGroup rest = true

theorem Delimited.nil (arg : Argument) : Delimited arg [] :=
  ⟨trivial, fun _ _ _ same => nomatch same⟩

/-! ## What is left behind an argument -/

theorem isSeparator_of_isBlank {c : Char} (blank : isBlank c = true) : isSeparator c = true := by
  simp [isSeparator, blank]

/-- Blanks are separators, so they are dropped with them. -/
theorem dropSeparators_trimStart (text : List Char) :
    (trimStart text).dropWhile isSeparator = text.dropWhile isSeparator := by
  obtain ⟨before, blank, same⟩ := exists_eq_append_trimStart text
  conv_rhs => rw [same]
  rw [List.dropWhile_append_of_pos fun c inside => isSeparator_of_isBlank (blank c inside)]

theorem dropSeparators_congr {left : List Char} (same : trimStart left = trimStart more) :
    left.dropWhile isSeparator = more.dropWhile isSeparator := by
  rw [← dropSeparators_trimStart left, same, dropSeparators_trimStart]

/-- The turn reads the argument, and leaves `more` up to separators. -/
def Turn.Reads (arg : Argument) (more : List Char) (turn : Turn) : Prop :=
  ∃ left, turn = .argument arg (.more left) ∧
    left.dropWhile isSeparator = more.dropWhile isSeparator

/-! ## The parts of an argument -/

theorem IsDefault.nonempty (isDefault : IsDefault text) : text ≠ [] := by
  cases isDefault with
  | bracket => simp
  | expression nonempty => exact nonempty

theorem IsDefault.trimmed (isDefault : IsDefault text) : Trimmed text := by
  cases isDefault with
  | bracket opens closes balanced => exact trimmed_bracket closes _
  | expression _ trimmed => exact trimmed

/-- The text is taken whole as a default value, behind any blanks and in front of
anything that ends one. -/
structure TakenWhole (text : List Char) : Prop where
  nonempty : text ≠ []
  trimmed : Trimmed text
  split : ∀ {gap rest : List Char}, Blank gap → Ends defaultStops (trimStart rest) →
    ∃ left, splitDefault? (gap ++ (text ++ rest)) = some (text, left) ∧
      trimStart left = trimStart rest

theorem IsDefault.takenWhole (isDefault : IsDefault text) : TakenWhole text where
  nonempty := isDefault.nonempty
  trimmed := isDefault.trimmed
  split := splitDefault?_of_isDefault isDefault

/-- Behind a name or a type come a default value and what delimits the
argument. -/
theorem readOptionalDefault_reads (part : Part '=' arg.defaultExpr value)
    (takenWhole : ∀ text, arg.defaultExpr = some text → TakenWhole text.toList)
    (ends : Ends [',', '['] (trimStart more)) :
    (readOptionalDefault { arg with defaultExpr := none } (trimStart (value ++ more))).Reads arg
      more := by
  rcases arg with ⟨name, type, default, optional⟩
  cases part with
  | absent =>
    refine ⟨trimStart more, ?_, dropSeparators_trimStart more⟩
    rw [List.nil_append]
    cases start : trimStart more with
    | nil => rfl
    | cons c rest =>
      rw [start] at ends
      have notMark : c ≠ '=' := by
        intro equal
        subst equal
        cases ends
      unfold readOptionalDefault
      split
      · next same => exact absurd (List.cons.inj same).1 notMark
      · rfl
  | @present before gap text blankBefore blankGap =>
    have whole := takenWhole text rfl
    have start : trimStart ('=' :: (gap ++ (text.toList ++ more))) = _ :=
      trimStart_eq_self rfl
    have defaultEnds : Ends defaultStops (trimStart more) :=
      ends.mono (List.all_iff_forall_prop.mp (by decide))
    obtain ⟨left, found, same⟩ := whole.split blankGap defaultEnds
    refine ⟨left, ?_, dropSeparators_congr same⟩
    simp only [List.append_assoc, List.cons_append, trimStart_append_of_blank blankBefore, start,
      readOptionalDefault, readDefault, found, kept_of_trimmed whole.nonempty whole.trimmed]

/-- Behind the blanks a part starts with its mark. -/
theorem Part.trimStart_of_present {mark : Char} {text : String} (visible : isBlank mark = false)
    (part : Part mark (some text) value) (more : List Char) :
    ∃ gap, Blank gap ∧ trimStart (value ++ more) = mark :: (gap ++ (text.toList ++ more)) := by
  cases part with
  | @present before gap _ blankBefore blankGap =>
    refine ⟨gap, blankGap, ?_⟩
    simp only [List.append_assoc, List.cons_append, trimStart_append_of_blank blankBefore]
    exact trimStart_eq_self visible

/-- What stands behind the type of a delimited argument ends the type. -/
theorem typeEnds_of_delimited (part : Part '=' arg.defaultExpr value)
    (typed : arg.typeExpr ≠ none) (delimited : Delimited arg more) :
    TypeEnds (trimStart (value ++ more)) := by
  rcases arg with ⟨name, type, default, optional⟩
  cases part with
  | absent =>
    have ends : Ends typeStops (trimStart more) :=
      delimited.ends.mono (List.all_iff_forall_prop.mp (by decide))
    exact ⟨ends, delimited.group typed rfl⟩
  | present blankBefore blankGap =>
    have visible : isBlank '=' = false := rfl
    obtain ⟨gap, -, start⟩ :=
      Part.trimStart_of_present visible (.present blankBefore blankGap) more
    rw [start]
    exact ⟨rfl, fun rest same => nomatch same⟩

/-- A name that has nothing with it is done where it is delimited. -/
theorem readAfterName_reads_none (name : String) (arg : Argument)
    (ends : Ends [',', '['] (trimStart more)) :
    (readAfterName name arg (trimStart more)).Reads arg more := by
  have left := dropSeparators_trimStart more
  cases start : trimStart more with
  | nil =>
    rw [start] at left
    exact ⟨[], rfl, left⟩
  | cons c rest =>
    rw [start] at ends left
    have either : c = ',' ∨ c = '[' := by simpa using mem_of_isStop ends
    rcases either with rfl | rfl
    · exact ⟨rest, rfl, left⟩
    · exact ⟨'[' :: rest, rfl, left⟩

/-- Behind a name the written type and default value are read. -/
theorem readAfterName_reads (name : String) (typePart : Part ':' arg.typeExpr type)
    (defaultPart : Part '=' arg.defaultExpr value)
    (isType : ∀ text, arg.typeExpr = some text → IsType text.toList)
    (takenWhole : ∀ text, arg.defaultExpr = some text → TakenWhole text.toList)
    (delimited : Delimited arg more) :
    (readAfterName name { arg with typeExpr := none, defaultExpr := none }
      (trimStart (type ++ (value ++ more)))).Reads arg more := by
  have reads := readOptionalDefault_reads defaultPart takenWhole delimited.ends
  rcases arg with ⟨argName, argType, argDefault, optional⟩
  cases argType with
  | some text =>
    have isText := isType text rfl
    obtain ⟨gap, blank, start⟩ := typePart.trimStart_of_present rfl (value ++ more)
    have found := splitType?_of_isType isText blank
      (typeEnds_of_delimited defaultPart (by simp) delimited)
    rw [start]
    simpa only [readAfterName, readType, found, kept_of_trimmed isText.nonempty isText.trimmed]
      using reads
  | none =>
    cases typePart
    rw [List.nil_append]
    cases argDefault with
    | some text =>
      obtain ⟨gap, -, start⟩ := defaultPart.trimStart_of_present rfl more
      rw [start] at reads ⊢
      exact reads
    | none =>
      cases defaultPart
      exact readAfterName_reads_none name _ delimited.ends

/-! ## A turn -/

/-- A name ends in front of what is written behind it. -/
theorem ends_of_parts {argType argDefault : Option String} (typePart : Part ':' argType type)
    (defaultPart : Part '=' argDefault value) (ends : Ends [',', '['] (trimStart more)) :
    Ends nameStops (trimStart (type ++ (value ++ more))) := by
  cases argType with
  | some text =>
    obtain ⟨gap, -, start⟩ := typePart.trimStart_of_present rfl (value ++ more)
    rw [start]
    rfl
  | none =>
    cases typePart
    rw [List.nil_append]
    cases argDefault with
    | some text =>
      obtain ⟨gap, -, start⟩ := defaultPart.trimStart_of_present rfl more
      rw [start]
      rfl
    | none =>
      cases defaultPart
      exact ends.mono (List.all_iff_forall_prop.mp (by decide))

theorem isOrdinary_of_isNameChar {c : Char} (nameChar : isNameChar c = true) :
    isOrdinary c = true := by
  simp only [isNameChar, Bool.and_eq_true] at nameChar
  exact nameChar.1.1.1

theorem PlainName.passes {name : List Char} (plain : PlainName name) :
    Passes nameStops [] name := by
  refine .of_forall (fun c inside => State.stopsAt_of_pending fun _ isStop => ?_)
    State.wellFormed_initial fun c inside => isOrdinary_of_isNameChar (plain.nameChars c inside)
  have noNameChar : ∀ d ∈ nameStops, isNameChar d = false :=
    List.all_iff_forall_prop.mp (by decide)
  exact absurd (plain.nameChars c inside) (by simp [noNameChar c isStop])

/-- A plain name is read with what is written behind it. -/
theorem readName_reads {name : String} {argType argDefault : Option String}
    (plain : PlainName name.toList) (typePart : Part ':' argType type)
    (defaultPart : Part '=' argDefault value)
    (isType : ∀ text, argType = some text → IsType text.toList)
    (takenWhole : ∀ text, argDefault = some text → TakenWhole text.toList)
    (delimited : Delimited ⟨name, argType, argDefault, false⟩ more)
    (previous : Option Argument) :
    (readName previous (name.toList ++ (type ++ (value ++ more)))).Reads
      ⟨name, argType, argDefault, false⟩ more := by
  have visible : ∀ c ∈ nameStops, isBlank c = false := List.all_iff_forall_prop.mp (by decide)
  obtain ⟨taken, found, same⟩ := plain.passes.cut? plain.trimmed visible
    (ends_of_parts typePart defaultPart delimited.ends)
  have reads := readAfterName_reads name typePart defaultPart isType takenWhole delimited
  have notEllipsis : name ≠ "..." := by
    intro equal
    subst equal
    exact plain.notEllipsis rfl
  rw [readName, found]
  simp only [same]
  cases chars : name.toList with
  | nil => exact absurd chars plain.nonempty
  | cons c rest =>
    have whole : String.ofList (c :: rest) = name := by rw [← chars, String.ofList_toList]
    simp only [whole, namedArgument, if_neg notEllipsis]
    exact reads

/-- A name in parentheses is read with the default value that is written behind it. -/
theorem readGroupedName_reads {inner : List Char} {argDefault : Option String}
    (neutral : Neutral '(' ')' inner) (defaultPart : Part '=' argDefault value)
    (takenWhole : ∀ text, argDefault = some text → TakenWhole text.toList)
    (ends : Ends [',', '['] (trimStart more)) :
    (readGroupedName (inner ++ ')' :: (value ++ more))).Reads
      ⟨String.ofList ('(' :: (inner ++ [')'])), none, argDefault, false⟩ more := by
  rw [readGroupedName, neutral.splitClose? (by decide)]
  exact readOptionalDefault_reads defaultPart takenWhole ends

theorem nextTurn_name {c : Char} (notSeparator : isSeparator c = false) (notGroup : c ≠ '[')
    (notGroupedName : c ≠ '(') (depth : Nat) (previous : Option Argument) (rest : List Char) :
    nextTurn depth previous (c :: rest) = readName previous (c :: rest) := by
  rw [nextTurn, List.dropWhile_cons_of_neg (by simp [notSeparator])]
  split <;> simp_all

/-- A turn reads a grouped name whose parentheses are matched among themselves. -/
theorem nextTurn_groupedName {inner : List Char} {argDefault : Option String}
    (neutral : Neutral '(' ')' inner)
    (takenWhole : ∀ text, argDefault = some text → TakenWhole text.toList)
    (writes : Writes ⟨String.ofList ('(' :: (inner ++ [')'])), none, argDefault, false⟩ text)
    (ends : Ends [',', '['] (trimStart more)) (depth : Nat) (previous : Option Argument) :
    (nextTurn depth previous (text ++ more)).Reads
      ⟨String.ofList ('(' :: (inner ++ [')'])), none, argDefault, false⟩ more := by
  rcases writes with ⟨typePart, defaultPart⟩
  have reads := readGroupedName_reads neutral defaultPart takenWhole ends
  cases typePart
  simp only [String.toList_ofList, List.append_assoc, List.cons_append, List.nil_append]
  exact reads

/-- A turn reads an argument with a plain name. -/
theorem nextTurn_named {name : String} {argType argDefault : Option String}
    (plain : PlainName name.toList) (isType : ∀ text, argType = some text → IsType text.toList)
    (takenWhole : ∀ text, argDefault = some text → TakenWhole text.toList)
    (writes : Writes ⟨name, argType, argDefault, false⟩ text)
    (delimited : Delimited ⟨name, argType, argDefault, false⟩ more) (depth : Nat)
    (previous : Option Argument) :
    (nextTurn depth previous (text ++ more)).Reads ⟨name, argType, argDefault, false⟩ more := by
  rcases writes with ⟨typePart, defaultPart⟩
  have reads := readName_reads plain typePart defaultPart isType takenWhole delimited previous
  simp only [List.append_assoc]
  cases chars : name.toList with
  | nil => exact absurd chars plain.nonempty
  | cons c rest =>
    have visible := plain.trimmed.first c (by rw [chars]; rfl)
    have nameChar := plain.nameChars c (by rw [chars]; exact List.mem_cons_self)
    have noName : ∀ d ∈ [',', '[', '('], c ≠ d := by
      have others : ∀ d ∈ [',', '[', '('], isNameChar d = false :=
        List.all_iff_forall_prop.mp (by decide)
      rintro d inside rfl
      rw [others c inside] at nameChar
      cases nameChar
    simp only [List.forall_mem_cons] at noName
    have notSeparator : isSeparator c = false := by simp [isSeparator, visible, noName.1]
    rw [chars, List.cons_append] at reads
    rw [List.cons_append, nextTurn_name notSeparator noName.2.1 noName.2.2.1]
    exact reads

/-- A turn reads a well-formed argument as it is written. -/
theorem nextTurn_of_writes (wellFormed : WellFormed arg) (writes : Writes arg text)
    (delimited : Delimited arg more) (depth : Nat) (previous : Option Argument) :
    (nextTurn depth previous (text ++ more)).Reads arg more := by
  cases wellFormed with
  | named plain isType isDefault =>
    exact nextTurn_named plain isType (fun text same => (isDefault text same).takenWhole) writes
      delimited depth previous
  | grouped balanced isDefault =>
    exact nextTurn_groupedName (balanced.neutral (.inl ⟨rfl, rfl⟩))
      (fun text same => (isDefault text same).takenWhole) writes delimited.ends depth previous

end CallSig.Parse
