import CallSig.Proofs.Parse.Continued
import CallSig.Proofs.Parse.Layout

/-!
# A bracket that is never closed

A `[` that no `]` follows ends the reading of a list, and nothing behind it
becomes an argument. `Complete` says that a list is read to its end with nothing
given up, as every documented list is (`complete_of_spells`);
`parseSignature_dangling` says that a complete list is read alike with and
without a bracket behind it that is never closed, whatever stands in the bracket.
-/

namespace CallSig.Parse

open CallSig.Bracket CallSig.Text

variable {body more text : List Char}

/-! ## The close of the list -/

theorem splitClose?_eq_none_of_notMem {opener closer : Char} (noClose : closer ∉ text)
    (depth : Nat) : splitClose? opener closer depth text = none := by
  rw [Option.eq_none_iff_forall_ne_some]
  rintro ⟨inner, after⟩ found
  apply noClose
  rw [splitClose?_eq_some found]
  simp

/-- A list that is closed by the last character of a text leaves nothing open in
front of it. -/
theorem splitClose?_of_closed {opener closer : Char} {depth : Nat}
    (closed : splitClose? opener closer depth (body ++ [closer]) = some (body, []))
    (rest : List Char) :
    splitClose? opener closer depth (body ++ rest) =
      (splitClose? opener closer 0 rest).map fun (inner, after) => (body ++ inner, after) := by
  induction body generalizing depth with
  | nil =>
    cases depth with
    | zero => simp
    | succ depth =>
      by_cases same : closer = opener <;> simp [splitClose?, same] at closed
  | cons c body ih =>
    have step : ∀ {depth : Nat},
        (splitClose? opener closer depth (body ++ [closer])).map
          (fun (inner, after) => (c :: inner, after)) = some (c :: body, []) →
        (splitClose? opener closer depth (body ++ rest)).map
          (fun (inner, after) => (c :: inner, after)) =
        (splitClose? opener closer 0 rest).map
          fun (inner, after) => (c :: body ++ inner, after) := by
      intro depth found
      obtain ⟨⟨inner, after⟩, split, same⟩ := Option.map_eq_some_iff.mp found
      simp only [Prod.mk.injEq, List.cons.injEq, true_and] at same
      rcases same with ⟨rfl, rfl⟩
      rw [ih split, Option.map_map]
      rfl
    by_cases opens : c = opener
    · subst opens
      rw [List.cons_append, splitClose?_opener] at closed ⊢
      exact step closed
    by_cases closes : c = closer
    · subst closes
      cases depth with
      | zero =>
        rw [List.cons_append, splitClose?_closer_zero opens] at closed
        simp at closed
      | succ depth =>
        rw [List.cons_append, splitClose?_closer_succ opens] at closed ⊢
        exact step closed
    · rw [List.cons_append, splitClose?_other opens closes] at closed ⊢
      exact step closed

/-! ## Reading a list that something stands behind -/

/-- The readings have the same arguments and the same flag. -/
structure Reading.Agrees (reading other : Reading) : Prop where
  args : reading.args = other.args
  variadic : reading.variadic = other.variadic

theorem Reading.Agrees.append_left {reading other : Reading} (agrees : reading.Agrees other)
    (first : Reading) : (first ++ reading).Agrees (first ++ other) :=
  ⟨by simp [agrees.args], by simp [agrees.variadic]⟩

/-- Nothing is given up in the reading. -/
def Reading.Whole (reading : Reading) : Prop :=
  ∀ why, Event.abandoned why ∉ reading.events

theorem Reading.Whole.of_append {first second : Reading} (whole : (first ++ second).Whole) :
    first.Whole ∧ second.Whole := by
  constructor
  · intro why inside
    exact whole why (List.mem_append_left _ inside)
  · intro why inside
    exact whole why (List.mem_append_right _ inside)

theorem Reading.Whole.append {first second : Reading} (before : first.Whole)
    (behind : second.Whole) : (first ++ second).Whole := by
  intro why inside
  rcases List.mem_append.mp inside with here | there
  · exact before why here
  · exact behind why there

theorem Reading.not_whole_abandoned (why : Abandonment) : ¬(Reading.abandoned why).Whole :=
  fun whole => whole why List.mem_cons_self

theorem Reading.whole_single (arg : Argument) : (Reading.single arg).Whole := by
  intro why inside
  cases List.mem_singleton.mp inside

/-- A turn that reads something does not stand in front of separators alone. -/
theorem Turn.continues_of_nextTurn (noClose : ']' ∉ more) {depth : Nat}
    {previous : Option Argument} {turn : Turn} (found : nextTurn depth previous body = turn)
    (unfinished : turn ≠ .finished) :
    turn.Continues more (nextTurn depth previous (body ++ ',' :: more)) := by
  subst found
  apply Turn.continues_nextTurn noClose depth previous
  intro separators
  apply unfinished
  rw [nextTurn, separators]

/-- A list that is read to its end is read alike in front of a text of which
nothing is read. -/
theorem readList_continued (noClose : ']' ∉ more) {depth : Nat}
    (ignored : ∀ previous, (readList depth previous (',' :: more)).Agrees .empty)
    (previous : Option Argument) (whole : (readList depth previous body).Whole) :
    (readList depth previous (body ++ ',' :: more)).Agrees (readList depth previous body) := by
  fun_induction readList depth previous body with
  | case1 depth previous body turn =>
    by_cases blank : body.dropWhile isSeparator = []
    · have separators : ∀ c ∈ body, isSeparator c = true := List.dropWhile_eq_nil_iff.mp blank
      rw [readList_congr (List.dropWhile_append_of_pos separators)]
      exact ignored previous
    · have stays := Turn.continues_nextTurn noClose depth previous blank
      rw [turn] at stays
      rw [readList_eq, stays]
      exact ⟨rfl, rfl⟩
  | case2 depth previous body why turn => exact absurd whole (Reading.not_whole_abandoned why)
  | case3 depth previous body rest turn ih =>
    have goesOn := Turn.continues_of_nextTurn noClose turn (by simp)
    rw [readList_eq, goesOn]
    exact ih ignored whole
  | case4 depth previous body inner rest turn group ihInner ihRest =>
    have goesOn := Turn.continues_of_nextTurn noClose turn (by simp)
    rw [readList_eq, goesOn]
    exact (ihRest ignored whole.of_append.2).append_left _
  | case5 depth previous body arg turn =>
    have goesOn := Turn.continues_of_nextTurn noClose turn (by simp)
    rw [readList_eq, goesOn]
    exact ⟨rfl, rfl⟩
  | case6 depth previous body arg why turn =>
    exact absurd whole.of_append.1 (Reading.not_whole_abandoned why)
  | case7 depth previous body arg rest turn ih =>
    have goesOn := Turn.continues_of_nextTurn noClose turn (by simp)
    obtain ⟨left, same, separated⟩ := goesOn
    rw [readList_eq, same]
    dsimp only
    rw [readList_congr separated]
    exact (ih ignored whole.of_append.2).append_left _

/-! ## Complete lists -/

/-- The text is a list that a closing parenthesis ends, and is read to its end. -/
structure Complete (body : List Char) : Prop where
  closed : splitClose? '(' ')' 0 (body ++ [')']) = some (body, [])
  whole : (readList 0 none body).Whole

/-- Nothing is given up in a documented list. -/
theorem whole_of_spells {items : Items} (spells : Spells items text)
    (wellFormed : items.WellFormed) {depth : Nat} (shallow : depth + items.depth ≤ maxGroupDepth)
    (previous : Option Argument) : (readList depth previous text).Whole := by
  induction spells generalizing depth previous with
  | nil separators =>
    rw [readList_of_isSeparator separators]
    intro why inside
    cases inside
  | argument separators writes delimited _ ih =>
    have reads := nextTurn_of_writes wellFormed.1 writes delimited depth previous
    rw [readList_congr (List.dropWhile_append_of_pos separators), reads.readList_eq]
    exact (Reading.whole_single _).append (ih wellFormed.2 shallow _)
  | @group inner rest gap body more separators spellsInner _ ihInner ihRest =>
    have neutral := spellsInner.neutral wellFormed.1 (.inr ⟨rfl, rfl⟩)
    simp only [Items.depth] at shallow
    have innerShallow : depth + 1 + inner.depth ≤ maxGroupDepth := by omega
    obtain ⟨last, group⟩ := readList_group neutral (by omega : depth < _) previous more
    rw [readList_congr (List.dropWhile_append_of_pos separators), group]
    exact (ihInner wellFormed.1 innerShallow none).append (ihRest wellFormed.2 (by omega) last)

/-- A documented list is read to its end and closed where it ends. -/
theorem complete_of_spells {items : Items} (spells : Spells items text)
    (wellFormed : items.WellFormed) (shallow : items.depth ≤ maxGroupDepth) : Complete text where
  closed := (spells.neutral wellFormed (.inl ⟨rfl, rfl⟩)).splitClose? (by decide) []
  whole := whole_of_spells spells wellFormed (by omega) none

/-- Nothing is read of a group that is not closed. -/
theorem readList_unclosed (noClose : ']' ∉ more) {depth : Nat} (shallow : depth < maxGroupDepth)
    (previous : Option Argument) :
    (readList depth previous (',' :: ' ' :: '[' :: more)).Agrees .empty := by
  have start : (',' :: ' ' :: '[' :: more).dropWhile isSeparator = '[' :: more := rfl
  have turn : nextTurn depth previous (',' :: ' ' :: '[' :: more) =
      .abandoned (.unbalancedOptionalGroup (String.ofList ('[' :: more))) := by
    rw [nextTurn, start]
    simp only [readGroup, Nat.not_le.mpr shallow, if_false, splitClose?_eq_none_of_notMem noClose]
  rw [readList_eq, turn]
  exact ⟨rfl, rfl⟩

/-- A complete list in parentheses is what is read of it. -/
theorem Complete.readSignature (complete : Complete body) :
    readSignature ('(' :: (body ++ [')'])) = readList 0 none body := by
  rw [Parse.readSignature, group?, if_pos rfl, complete.closed]

/-- Behind a complete list the close of the parentheses is looked for in what
comes behind it. -/
theorem Complete.readSignature_dangling (complete : Complete body) {tail : List Char}
    (noClose : ']' ∉ tail)
    (closes : (group? '(' ')' ('(' :: (body ++ ',' :: ' ' :: '[' :: (tail ++ [')'])))).isSome) :
    (Parse.readSignature ('(' :: (body ++ ',' :: ' ' :: '[' :: (tail ++ [')'])))).Agrees
      (readList 0 none body) := by
  have list : group? '(' ')' ('(' :: (body ++ ',' :: ' ' :: '[' :: (tail ++ [')']))) =
      (splitClose? '(' ')' 0 (tail ++ [')'])).map
        fun (inner, after) => (body ++ ',' :: ' ' :: '[' :: inner, after) := by
    rw [group?, if_pos rfl, splitClose?_of_closed complete.closed,
      splitClose?_other (by decide) (by decide), splitClose?_other (by decide) (by decide),
      splitClose?_other (by decide) (by decide)]
    simp only [Option.map_map]
    rfl
  rw [list, Option.isSome_map] at closes
  obtain ⟨⟨inner, after⟩, found⟩ := Option.isSome_iff_exists.mp closes
  have noneInside : ']' ∉ inner := by
    intro inside
    have whole : ']' ∈ tail ++ [')'] := by
      rw [splitClose?_eq_some found]
      exact List.mem_append_left _ inside
    rcases List.mem_append.mp whole with before | last
    · exact noClose before
    · cases List.mem_singleton.mp last
  have noneBehind : ']' ∉ ' ' :: '[' :: inner := by simpa using noneInside
  rw [found, Option.map_some] at list
  simp only [Parse.readSignature, list]
  exact readList_continued noneBehind (readList_unclosed noneInside (by decide)) none
    complete.whole

end Parse

open CallSig.Bracket CallSig.Parse CallSig.Text

/-- Every documented list is complete, and a complete list is read alike with and
without a bracket behind it that is never closed. -/
theorem parseSignature_dangling :
    (∀ (items : Items) (list : String), items.WellFormed → items.depth ≤ maxGroupDepth →
      Spells items list.toList →
        Complete list.toList ∧ parseArguments ("(" ++ list ++ ")") = items.arguments) ∧
    ∀ list tail : String, Complete list.toList → ']' ∉ tail.toList →
      (matchingClose? ("(" ++ list ++ ", [" ++ tail ++ ")") '(' ')').isSome →
        parseSignature ("(" ++ list ++ ", [" ++ tail ++ ")") =
          parseSignature ("(" ++ list ++ ")") := by
  have listChars : ∀ list : String,
      ("(" ++ list ++ ")").toList = '(' :: (list.toList ++ [')']) := by simp
  constructor
  · intro items list wellFormed shallow spells
    have complete := complete_of_spells spells wellFormed shallow
    have gives := readList_of_spells spells wellFormed (by omega : 0 + items.depth ≤ _) none
    refine ⟨complete, ?_⟩
    simp only [parseArguments, parseSignature, listChars, complete.readSignature, gives.1]
  · intro list tail complete noClose closes
    have chars : ("(" ++ list ++ ", [" ++ tail ++ ")").toList =
        '(' :: (list.toList ++ ',' :: ' ' :: '[' :: (tail.toList ++ [')'])) := by simp
    rw [matchingClose?, chars, Option.isSome_map] at closes
    have agrees := complete.readSignature_dangling noClose closes
    simp only [parseSignature, chars, listChars, complete.readSignature, agrees.args,
      agrees.variadic]

/-- A group with a subscript in a type and a comma in quotes, and behind it a
bracket with quotes, a parenthesis and a comparison. -/
theorem parseSignature_dangling_group :
    (Items.argument ⟨"a", none, none, false⟩
      (.group (.argument ⟨"b", some "L[i]", some "','", false⟩ .nil) .nil)).WellFormed ∧
    Complete "a[, b: L[i] = ',']".toList ∧
    parseSignature "(a[, b: L[i] = ','], [c=')', d='x, [e <)" =
      parseSignature "(a[, b: L[i] = ','])" := by
  have trimmed : ∀ text ∈ ["a".toList, "b".toList, "L[i]".toList, "','".toList],
      Trimmed text := by
    simp only [List.forall_mem_cons, ← trim_eq_self_iff]
    decide
  simp only [List.forall_mem_cons] at trimmed
  rcases trimmed with ⟨trimmedA, trimmedB, trimmedType, trimmedQuoted, -⟩
  have isType : IsType "L[i]".toList :=
    ⟨by decide, trimmedType,
      .char rfl rfl (.group rfl (by decide) rfl (.char rfl rfl .nil) .nil)⟩
  have isQuoted : IsDefault "','".toList := by
    have comma : QuotedText '\x27' [','] := .char (by decide) (by decide) rfl .nil
    exact .expression (by decide) trimmedQuoted (by rintro _ ⟨⟩; rfl) (.quoted rfl comma .nil)
  have first : WellFormed ⟨"a", none, none, false⟩ :=
    .named ⟨by decide, trimmedA, List.all_iff_forall_prop.mp (by decide), by decide⟩ nofun nofun
  have second : WellFormed ⟨"b", some "L[i]", some "','", false⟩ :=
    .named ⟨by decide, trimmedB, List.all_iff_forall_prop.mp (by decide), by decide⟩
      (by rintro _ ⟨⟩; exact isType) (by rintro _ ⟨⟩; exact isQuoted)
  have wellFormed : (Items.argument ⟨"a", none, none, false⟩
      (.group (.argument ⟨"b", some "L[i]", some "','", false⟩ .nil) .nil)).WellFormed :=
    ⟨first, ⟨second, trivial⟩, trivial⟩
  rcases parseSignature_dangling with ⟨documented, dangling⟩
  have complete := (documented _ "a[, b: L[i] = ',']" wellFormed (by decide)
    (spells_print _ true)).1
  have read := dangling _ "c=')', d='x, [e <" complete (by decide +kernel) (by decide +kernel)
  refine ⟨wellFormed, complete, Eq.trans (congrArg parseSignature ?_)
    (read.trans (congrArg parseSignature ?_))⟩
  · decide +kernel
  · decide +kernel

end CallSig
