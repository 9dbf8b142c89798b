import CallSig.Proofs.Parse.Reading
import CallSig.Proofs.Parse.WellFormed

/-!
# Where a type and a default value end

A type ends in front of a text that ends types, and nothing in front of that text depends
on it (`typeCut_iff`). What ends a type is told by a `TypeBoundary`, one of the marks `=`,
`,` and `)` or a `[` with the comma of an optional group; so the text behind the boundary
means nothing to the type, and a boundary inside the type stands in a bracket or a string
(`parseType?_boundary`).

A default value that starts with a bracket is the bracket, if it closes
(`parseDefault?_bracket`). Any other default value ends in front of a text that is read as
no further argument (`parseDefault?_ends`).
-/

namespace CallSig.Parse

open CallSig.Bracket CallSig.Text

variable {taken left before behind boundary text other : List Char}

/-! ## The end of a type -/

theorem startsOptionalGroup_append (optional : startsOptionalGroup text = true)
    (other : List Char) : startsOptionalGroup (text ++ other) = true := by
  simp only [startsOptionalGroup, beq_iff_eq] at optional ⊢
  obtain ⟨before, blank, same⟩ := exists_eq_append_trimStart text
  obtain ⟨rest, start⟩ := List.head?_eq_some_iff.mp optional
  rw [same, List.append_assoc, trimStart_append_of_blank blank, start, List.cons_append,
    trimStart_eq_self (by decide), List.head?_cons]

/-- A text that ends types does so with more text behind, which counts only where the
text is empty. -/
theorem TypeEnds.append (ends : TypeEnds left) (atEnd : left = [] → TypeEnds behind) :
    TypeEnds (left ++ behind) := by
  cases left with
  | nil => exact atEnd rfl
  | cons c rest =>
    refine ⟨ends.1, fun more same => ?_⟩
    obtain ⟨rfl, rfl⟩ := List.cons.inj same
    exact startsOptionalGroup_append (ends.2 rest rfl) behind

/-- A type is cut in front of a text that ends types. -/
theorem TypeCut.typeEnds (cut : TypeCut taken left) : TypeEnds left := by
  induction cut with
  | last found boundary =>
    obtain ⟨-, -, ends⟩ := cut?_eq_some_iff.mp found
    exact ⟨ends, boundary⟩
  | subscript _ _ _ _ ih => exact ih

theorem TypeEnds.head?_ne (ends : TypeEnds left) : left.head? ≠ some '>' := by
  intro same
  obtain ⟨rest, rfl⟩ := List.head?_eq_some_iff.mp same
  cases ends.1

/-- A type on its own is the type in front of whatever ends types. -/
theorem TypeCut.inFrontOf (cut : TypeCut taken []) (ends : TypeEnds left) :
    TypeCut taken left := by
  generalize alone : ([] : List Char) = nothing at cut
  induction cut with
  | last found _ =>
    subst alone
    rw [List.append_nil] at found
    exact .last (cut?_append_ends found ends.1 ends.head?_ne) ends.2
  | subscript found required skipped _ ih =>
    exact .subscript_replaceRest found required skipped (ih alone)

/-- What a type is does not depend on the text behind it, and where it ends depends on that
text alone. -/
theorem typeCut_iff : TypeCut taken left ↔ TypeCut taken [] ∧ TypeEnds left :=
  ⟨fun cut => ⟨cut.alone, cut.typeEnds⟩, fun both => both.1.inFrontOf both.2⟩

/-- In a type that ends there is no place where it could have ended before: in front of such
a place a bracket or a string is open. -/
theorem TypeCut.cutType?_eq_none (cut : TypeCut (before ++ behind) left)
    (nonempty : behind ≠ []) (ends : TypeEnds behind) : Parse.cutType? before = none := by
  rw [Option.eq_none_iff_forall_ne_some]
  rintro ⟨front, rest⟩ found
  obtain ⟨rfl, frontCut⟩ := cutType?_eq_some_iff.mp found
  have earlier := (frontCut.alone.inFrontOf (frontCut.typeEnds.append fun _ => ends)).cutType?
  have whole := cut.alone.cutType?
  rw [List.append_nil, List.append_assoc, earlier] at whole
  simp only [Option.some.injEq, Prod.mk.injEq, List.append_eq_nil_iff] at whole
  exact nonempty whole.2.2

/-- The shortest text in front of which a type ends, whatever comes behind it. -/
inductive TypeBoundary : List Char → Prop
  | mark {c : Char} : c ∈ ['=', ',', ')'] → TypeBoundary [c]
  | group {gap : List Char} : Blank gap → TypeBoundary ('[' :: (gap ++ [',']))

theorem TypeBoundary.ne_nil (isBoundary : TypeBoundary boundary) : boundary ≠ [] := by
  cases isBoundary <;> exact List.cons_ne_nil _ _

theorem TypeBoundary.typeEnds (isBoundary : TypeBoundary boundary) : TypeEnds boundary := by
  cases isBoundary with
  | @mark c isMark =>
    have stops : ∀ c ∈ ['=', ',', ')'], isStop typeStops c = true ∧ c ≠ '[' :=
      List.all_iff_forall_prop.mp (by decide)
    obtain ⟨isStop, noBracket⟩ := stops c isMark
    exact ⟨isStop, fun rest same => absurd (List.cons.inj same).1 noBracket⟩
  | @group gap blank =>
    refine ⟨rfl, fun rest same => ?_⟩
    obtain rfl := (List.cons.inj same).2
    rw [startsOptionalGroup, trimStart_append_of_blank blank, trimStart_eq_self (by decide)]
    rfl

/-- A boundary ends types whatever comes behind it. -/
theorem TypeBoundary.typeEnds_append (isBoundary : TypeBoundary boundary) (other : List Char) :
    TypeEnds (boundary ++ other) :=
  isBoundary.typeEnds.append fun empty => absurd empty isBoundary.ne_nil

/-- A type ends at the end of the text or in front of a boundary. -/
theorem typeEnds_iff :
    TypeEnds left ↔ left = [] ∨ ∃ boundary other, TypeBoundary boundary ∧
      left = boundary ++ other := by
  constructor
  · intro ends
    cases left with
    | nil => exact .inl rfl
    | cons c rest =>
      by_cases bracket : c = '['
      · subst bracket
        obtain ⟨gap, blank, same⟩ := exists_eq_append_trimStart rest
        have comma := ends.2 rest rfl
        rw [startsOptionalGroup, beq_iff_eq] at comma
        obtain ⟨other, start⟩ := List.head?_eq_some_iff.mp comma
        exact .inr ⟨_, other, .group blank, by simp [← start, ← same]⟩
      · have inStops := mem_of_isStop ends.1
        have isMark : c ∈ ['=', ',', ')'] := by simpa [typeStops, bracket] using inStops
        exact .inr ⟨_, rest, .mark isMark, rfl⟩
  · intro parts
    rcases parts with rfl | ⟨boundary, other, isBoundary, rfl⟩
    · exact ⟨trivial, fun rest same => absurd same.symm (List.cons_ne_nil _ _)⟩
    · exact isBoundary.typeEnds_append other

/-! ## The end of a default value -/

/-- A default value that starts with a bracket is the bracket. Where the bracket does not
close there is no default value, or an empty one in front of a `[`. -/
theorem splitDefault?_of_opensValue {opener : Char} {rest : List Char}
    (start : trimStart text = opener :: rest) (opens : opensValue opener = true) :
    splitDefault? text =
      match skipGroup? (opener :: rest) with
      | some whole => some whole
      | none => if opener = '[' then some ([], '[' :: rest) else none := by
  rw [splitDefault?, start, leadingBracket?, if_pos opens]
  cases unclosed : skipGroup? (opener :: rest) with
  | some whole => rfl
  | none =>
    simp only [cut?_of_unclosed opens unclosed]
    split
    · next square => rw [square]; rfl
    · rfl

/-- No argument starts with the text: a list is over there, or goes on behind a comma or with
an optional group. -/
def StartsNoArgument (text : List Char) : Prop :=
  ∀ depth previous, nextTurn depth previous text = .finished ∨
    (∃ more, text = ',' :: more ∧ nextTurn depth previous text = nextTurn depth previous more) ∨
    ∃ more, text = '[' :: more ∧ nextTurn depth previous text = readGroup depth more

theorem startsNoArgument_of_ends (ends : Ends defaultStops left) : StartsNoArgument left := by
  intro depth previous
  cases left with
  | nil => exact .inl rfl
  | cons c more =>
    have inStops := mem_of_isStop ends
    simp only [defaultStops, List.mem_cons, List.not_mem_nil, or_false] at inStops
    rcases inStops with rfl | rfl | rfl
    · exact .inr (.inl ⟨more, rfl, rfl⟩)
    · exact .inl rfl
    · exact .inr (.inr ⟨more, rfl, rfl⟩)

end CallSig.Parse

namespace CallSig

open CallSig.Bracket CallSig.Parse CallSig.Text

/-- A type is cut out of a text in front of its boundary. Cut out, it is read whole; each
boundary inside it has a bracket or a string open in front of it, in which the text up to
there ends; and the text behind the boundary has no part in what is cut. -/
theorem parseType?_boundary {text type rest : String}
    (found : parseType? text = some (type, rest)) :
    ∃ cut : String, text = cut ++ rest ∧ type = .ofList (trim cut.toList) ∧
      parseType? cut = some (type, "") ∧
      (∀ before boundary after : String, cut = before ++ boundary ++ after →
        TypeBoundary boundary.toList → parseType? before = none) ∧
      (rest = "" ∨ ∃ boundary after : String, TypeBoundary boundary.toList ∧
        rest = boundary ++ after ∧ ∀ other : String,
          parseType? (cut ++ boundary ++ other) = some (type, boundary ++ other)) := by
  obtain ⟨⟨value, left⟩, split, same⟩ := Option.map_eq_some_iff.mp found
  simp only [Prod.mk.injEq] at same
  rcases same with ⟨rfl, rfl⟩
  obtain ⟨taken, whole, cut, rfl⟩ := splitType?_eq_some_iff.mp split
  obtain ⟨alone, ends⟩ := typeCut_iff.mp cut
  refine ⟨.ofList taken, ?_, by simp, ?_, ?_, ?_⟩
  · rw [← String.ofList_append, ← whole, String.ofList_toList]
  · have again : splitType? taken = some (trim taken, []) :=
      splitType?_eq_some_iff.mpr ⟨taken, (List.append_nil _).symm, alone, rfl⟩
    simp [parseType?, again]
  · intro before boundary after same isBoundary
    have parts : taken = before.toList ++ (boundary.toList ++ after.toList) := by
      have lists := congrArg String.toList same
      simpa using lists
    subst parts
    have nonempty : boundary.toList ++ after.toList ≠ [] :=
      List.append_ne_nil_of_left_ne_nil isBoundary.ne_nil _
    have unclosed := cut.cutType?_eq_none nonempty (isBoundary.typeEnds_append after.toList)
    rw [parseType?, splitType?, unclosed]
    rfl
  · rcases typeEnds_iff.mp ends with rfl | ⟨boundary, after, isBoundary, rfl⟩
    · exact .inl rfl
    · refine .inr ⟨.ofList boundary, .ofList after, ?_, ?_, fun other => ?_⟩
      · rwa [String.toList_ofList]
      · exact String.ofList_append
      · have replaced : splitType? (taken ++ (boundary ++ other.toList)) =
            some (trim taken, boundary ++ other.toList) :=
          splitType?_eq_some_iff.mpr
            ⟨taken, rfl, typeCut_iff.mpr ⟨alone, isBoundary.typeEnds_append _⟩, rfl⟩
        simp [parseType?, replaced]

/-- A subscript with a comma and a mark in a string, in front of an optional group. -/
theorem parseType?_boundary_subscript :
    parseType? " Map[str, '='] [ , step]" = some ("Map[str, '=']", "[ , step]") ∧
      parseType? " Map[str, '='] " = some ("Map[str, '=']", "") ∧
      TypeBoundary [','] ∧ parseType? " Map[str" = none := by
  have read : parseType? " Map[str, '='] [ , step]" = some ("Map[str, '=']", "[ , step]") := by
    decide +kernel
  have comma : TypeBoundary [','] := .mark (by decide)
  obtain ⟨cut, whole, -, again, inside, -⟩ := parseType?_boundary read
  obtain rfl : cut = " Map[str, '='] " := by
    have lists := congrArg String.toList whole
    rw [String.toList_append] at lists
    exact String.toList_inj.mp (List.append_cancel_right lists.symm)
  exact ⟨read, again, comma, inside " Map[str" "," " '='] " (by decide +kernel) comma⟩

/-- A default value that starts with a bracket is the bracket as a whole, whatever comes
behind it. Where the bracket does not close, a round or a curly one is given up, and the
list ends there. A square one leaves an empty value in front of it, and what stands in it is
read as an optional group if a `]` balances it. -/
theorem parseDefault?_bracket {text : String} {opener : Char} {rest : List Char}
    (start : trimStart text.toList = opener :: rest) (opens : opensValue opener = true) :
    match skipGroup? (opener :: rest) with
    | some (group, after) => parseDefault? text = some (.ofList group, .ofList after)
    | none =>
      if opener = '[' then
        parseDefault? text = some ("", .ofList ('[' :: rest)) ∧
          ∀ depth previous body arg inner after,
            nextTurn depth previous body = readDefault arg text.toList →
            depth < maxGroupDepth → splitClose? '[' ']' 0 rest = some (inner, after) →
            ∃ last, readList depth previous body = .single { arg with defaultExpr := none } ++
              ((readList (depth + 1) none inner).asOptional ++ readList depth last after)
      else
        parseDefault? text = none ∧
          ∀ depth previous body arg,
            nextTurn depth previous body = readDefault arg text.toList →
            readList depth previous body =
              .abandoned (.unclosedDefault arg.name) ++ .single arg := by
  have split := splitDefault?_of_opensValue start opens
  cases skipped : skipGroup? (opener :: rest) with
  | some whole =>
    rcases whole with ⟨group, after⟩
    rw [skipped] at split
    simp only [parseDefault?, split, Option.map_some]
  | none =>
    rw [skipped] at split
    by_cases square : opener = '['
    · subst square
      rw [if_pos rfl] at split ⊢
      refine ⟨by simp [parseDefault?, split], ?_⟩
      intro depth previous body arg inner after turn shallow closes
      rw [readDefault, split] at turn
      obtain ⟨last, group⟩ :=
        readList_of_splitClose? shallow closes (some { arg with defaultExpr := kept [] })
      rw [readList_eq, turn]
      exact ⟨last, congrArg (Reading.single _ ++ ·) group⟩
    · rw [if_neg square] at split ⊢
      refine ⟨by simp [parseDefault?, split], ?_⟩
      intro depth previous body arg turn
      rw [readDefault, split] at turn
      rw [readList_eq, turn]

/-- The `)` stands in a square bracket, which is open at the end of the text. -/
theorem parseDefault?_bracket_round :
    trimStart " ('k', [1, 2), b".toList = '(' :: "'k', [1, 2), b".toList ∧
      opensValue '(' = true ∧ parseDefault? " ('k', [1, 2), b" = none ∧
      nextTurn 0 none "a= ('k', [1, 2), b".toList =
        readDefault (.named "a") " ('k', [1, 2), b".toList ∧
      readList 0 none "a= ('k', [1, 2), b".toList =
        .abandoned (.unclosedDefault "a") ++ .single (.named "a") := by
  have start : trimStart " ('k', [1, 2), b".toList = '(' :: "'k', [1, 2), b".toList := by
    decide +kernel
  have turn : nextTurn 0 none "a= ('k', [1, 2), b".toList =
      readDefault (.named "a") " ('k', [1, 2), b".toList := by decide +kernel
  have unclosed : skipGroup? ('(' :: "'k', [1, 2), b".toList) = none := by decide +kernel
  have bracket := parseDefault?_bracket start rfl
  rw [unclosed] at bracket
  exact ⟨start, rfl, bracket.1, turn, bracket.2 _ _ _ _ turn⟩

/-- A square bracket that does not close is no default value that is given up: what stands
in it is read as an optional group. -/
theorem parseDefault?_unclosed_square :
    skipGroup? "[b, 'c]".toList = none ∧ parseDefault? "[b, 'c]" = some ("", "[b, 'c]") ∧
      parseArguments "(a=[b, 'c])" = [.named "a", (Argument.named "b").asOptional] := by
  decide +kernel

/-- A default value ends in front of a text that is read as no further argument, unless it is
the bracket that the text starts with. -/
theorem parseDefault?_ends {text value rest : String}
    (found : parseDefault? text = some (value, rest)) :
    (∃ opener, opensValue opener = true ∧ value.toList.head? = some opener ∧
      skipGroup? (trimStart text.toList) = some (value.toList, rest.toList)) ∨
    (Ends defaultStops rest.toList ∧ StartsNoArgument rest.toList) := by
  obtain ⟨⟨taken, left⟩, split, same⟩ := Option.map_eq_some_iff.mp found
  simp only [Prod.mk.injEq] at same
  rcases same with ⟨rfl, rfl⟩
  rw [String.toList_ofList, String.toList_ofList]
  rcases splitDefault?_eq_some split with leading | ⟨-, cutTaken, cutFound, -⟩
  · obtain ⟨opener, closer, inner, opens, -, rfl, skipped⟩ := leadingBracket?_eq_some leading
    exact .inl ⟨opener, opens, rfl, skipped⟩
  · obtain ⟨-, -, ends⟩ := cut?_eq_some_iff.mp cutFound
    exact .inr ⟨ends, startsNoArgument_of_ends ends⟩

/-- A call is read up to a stop, and a bracket to where it closes. -/
theorem parseDefault?_ends_call :
    parseDefault? " f(1, x<2)[, b]" = some ("f(1, x<2)", "[, b]") ∧
      ((∃ opener, opensValue opener = true ∧ "f(1, x<2)".toList.head? = some opener ∧
        skipGroup? (trimStart " f(1, x<2)[, b]".toList) =
          some ("f(1, x<2)".toList, "[, b]".toList)) ∨
      (Ends defaultStops "[, b]".toList ∧ StartsNoArgument "[, b]".toList)) := by
  have read : parseDefault? " f(1, x<2)[, b]" = some ("f(1, x<2)", "[, b]") := by decide +kernel
  exact ⟨read, parseDefault?_ends read⟩

/-- Behind a bracket that is a default value any text may come, also one that is read as a
further argument. -/
theorem parseDefault?_behind_bracket :
    (parseDefault? " (None, None)], *" = some ("(None, None)", "], *") ∧
      ¬Ends defaultStops (trimStart "], *".toList)) ∧
    parseDefault? "(1, 2) * b" = some ("(1, 2)", " * b") ∧
      ¬Ends defaultStops (trimStart " * b".toList) ∧
      parseSignature "(a=(1, 2) * b)" =
        ⟨[⟨"a", none, some "(1, 2)", false⟩, .named "* b"], true⟩ := by
  refine ⟨⟨by decide +kernel, ?_⟩, by decide +kernel, ?_, by decide +kernel⟩
  · rintro ⟨⟩
  · rintro ⟨⟩

end CallSig
