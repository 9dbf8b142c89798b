import CallSig.Proofs.Bracket.Matching
import CallSig.Proofs.Parse.Boundary
import CallSig.Proofs.Parse.Expression
import CallSig.Proofs.Parse.Reading

/-!
# A list in front of more text

A comma ends a name, a type and a default value alike. So a turn that gives
nothing up reads the same when a comma and more text come behind the list, and
leaves that text to be read as well (`Turn.continues_nextTurn`).

The text behind must not hold a `]`: in `x=[1` the bracket does not close, and
more text could close it.
-/

namespace CallSig.Parse

open CallSig.Bracket CallSig.Text

variable {stops text taken left value more : List Char}

/-! ## Expressions -/

/-- What is cut is cut in front of a comma, too. -/
theorem cut?_continued (comma : isStop stops ',' = true)
    (found : cut? stops text = some (taken, left)) (more : List Char) :
    cut? stops (text ++ ',' :: more) = some (taken, left ++ ',' :: more) := by
  obtain rfl := cut?_eq_some found
  cases left with
  | nil =>
    rw [List.append_nil]
    exact cut?_append_ends (cut?_taken found) comma (by simp)
  | cons c rest =>
    rw [List.append_assoc, List.cons_append]
    exact cut?_replaceRest found

/-- A bracket that does not close is not closed by a text without its closer. -/
theorem skipGroup?_continued_eq_none (noClose : ']' ∉ more)
    (unclosed : skipGroup? ('[' :: text) = none) :
    skipGroup? ('[' :: (text ++ ',' :: more)) = none := by
  rw [Option.eq_none_iff_forall_ne_some]
  rintro ⟨bracket, after⟩ skipped
  obtain ⟨opener, closer, inner, closes, rfl, same, -⟩ := skipGroup?_eq_some_iff.mp skipped
  simp only [List.cons_append, List.append_assoc, List.cons.injEq] at same
  rcases same with ⟨rfl, same⟩
  cases closes
  rcases List.append_eq_append_iff.mp same with ⟨within, -, behind⟩ | ⟨within, rfl, behind⟩
  · have inside : ']' ∈ ',' :: more := by simp [behind]
    exact noClose ((List.mem_cons.mp inside).resolve_left (by decide))
  · cases within with
    | nil => cases behind
    | cons c within =>
      rw [List.cons_append, List.cons.injEq] at behind
      rcases behind with ⟨rfl, rfl⟩
      have alone := skipGroup?_append skipped within
      simp only [List.cons_append, List.append_assoc, List.nil_append] at alone
      rw [unclosed] at alone
      cases alone

/-- A type that is cut is cut in front of a comma and more text, too. -/
theorem TypeCut.continued (cut : TypeCut taken left) (more : List Char) :
    TypeCut taken (left ++ ',' :: more) := by
  have comma : TypeBoundary [','] := .mark (by decide)
  exact cut.alone.inFrontOf (cut.typeEnds.append fun _ => comma.typeEnds_append more)

theorem splitType?_continued (found : splitType? text = some (value, left)) (more : List Char) :
    splitType? (text ++ ',' :: more) = some (value, left ++ ',' :: more) := by
  obtain ⟨taken, rfl, cut, rfl⟩ := splitType?_eq_some_iff.mp found
  exact splitType?_eq_some_iff.mpr ⟨taken, List.append_assoc _ _ _, cut.continued more, rfl⟩

theorem trimStart_continued (text more : List Char) :
    trimStart (text ++ ',' :: more) = trimStart text ++ ',' :: more := by
  obtain ⟨before, blank, same⟩ := exists_eq_append_trimStart text
  conv_lhs => rw [same]
  rw [List.append_assoc, trimStart_append_of_blank blank]
  cases start : trimStart text with
  | nil => exact trimStart_eq_self (by decide)
  | cons c rest => exact trimStart_eq_self (head?_trimStart (by rw [start]; rfl))

/-- A default value that is split off is the same in front of a comma, if nothing behind
it closes a bracket. -/
theorem splitDefault?_continued (noClose : ']' ∉ more)
    (found : splitDefault? text = some (value, left)) :
    splitDefault? (text ++ ',' :: more) = some (value, left ++ ',' :: more) := by
  have parts := splitDefault?_eq_some found
  rw [splitDefault?, trimStart_continued]
  generalize trimStart text = start at parts ⊢
  rcases parts with leading | ⟨noBracket, cutTaken, cutFound, rfl⟩
  · obtain ⟨opener, closer, inner, opens, -, rfl, skipped⟩ := leadingBracket?_eq_some leading
    have start := skipGroup?_eq_some skipped
    have again := skipGroup?_append skipped (left ++ ',' :: more)
    have bracket : leadingBracket? (opener :: inner ++ [closer] ++ (left ++ ',' :: more)) =
        some (opener :: inner ++ [closer], left ++ ',' :: more) := by
      rw [List.cons_append, List.cons_append, leadingBracket?, if_pos opens]
      exact again
    rw [start, List.append_assoc, bracket]
  · have stillNoBracket : leadingBracket? (start ++ ',' :: more) = none := by
      cases start with
      | nil => rfl
      | cons c rest =>
        rw [leadingBracket?] at noBracket
        rw [List.cons_append, leadingBracket?]
        split at noBracket
        · next opens =>
          rw [cut?_of_unclosed opens noBracket] at cutFound
          split at cutFound
          · next square =>
            subst square
            rw [if_pos opens]
            exact skipGroup?_continued_eq_none noClose noBracket
          · cases cutFound
        · next closed => rw [if_neg closed]
    rw [stillNoBracket]
    simp only [cut?_continued rfl cutFound more, Option.map_some]

/-! ## Turns -/

/-- What a turn becomes when a comma and more text come behind the list. Nothing
is said of one that gives something up. -/
def Turn.Continues (more : List Char) : Turn → Turn → Prop
  | .finished, continued => continued = .finished
  | .skip rest, continued => continued = .skip (rest ++ ',' :: more)
  | .group inner rest, continued => continued = .group inner (rest ++ ',' :: more)
  | .argument arg .finished, continued => continued = .argument arg .finished
  | .argument arg (.more rest), continued => ∃ left, continued = .argument arg (.more left) ∧
    left.dropWhile isSeparator = (rest ++ ',' :: more).dropWhile isSeparator
  | .argument _ (.abandoned _), _ => True
  | .abandoned _, _ => True

/-- A default value goes on into a comma and more text. -/
theorem readDefault_continues (noClose : ']' ∉ more) (arg : Argument) (text : List Char) :
    (readDefault arg text).Continues more (readDefault arg (text ++ ',' :: more)) := by
  cases found : splitDefault? text with
  | none =>
    rw [readDefault, found]
    trivial
  | some parts =>
    rw [readDefault, readDefault, found, splitDefault?_continued noClose found]
    exact ⟨_, rfl, rfl⟩

theorem readOptionalDefault_continues (noClose : ']' ∉ more) (arg : Argument)
    (text : List Char) : (readOptionalDefault arg text).Continues more
      (readOptionalDefault arg (text ++ ',' :: more)) := by
  cases text with
  | nil => exact ⟨_, rfl, rfl⟩
  | cons c rest =>
    by_cases mark : c = '='
    · subst mark
      exact readDefault_continues noClose arg rest
    · unfold readOptionalDefault
      split
      · next same => exact absurd (List.cons.inj same).1 mark
      · split
        · next same => exact absurd (List.cons.inj same).1 mark
        · exact ⟨_, rfl, rfl⟩

theorem readType_continues (noClose : ']' ∉ more) (name : String) (arg : Argument)
    (text : List Char) :
    (readType name arg text).Continues more (readType name arg (text ++ ',' :: more)) := by
  cases found : splitType? text with
  | none =>
    rw [readType, found]
    trivial
  | some parts =>
    rw [readType, readType, found, splitType?_continued found]
    exact readOptionalDefault_continues noClose _ _

theorem readAfterName_continues (noClose : ']' ∉ more) (name : String) (arg : Argument)
    (text : List Char) : (readAfterName name arg text).Continues more
      (readAfterName name arg (text ++ ',' :: more)) := by
  unfold readAfterName
  split
  · exact readType_continues noClose name arg _
  · exact readDefault_continues noClose arg _
  · rfl
  · exact ⟨more, rfl, rfl⟩
  · exact ⟨_, rfl, rfl⟩
  · next c rest notType notDefault notClose notGroup =>
    rw [List.cons_append]
    split <;> simp_all [Turn.Continues]

/-- So does a name that does not start with a blank. -/
theorem readName_continues (noClose : ']' ∉ more) (previous : Option Argument) {c : Char}
    {rest : List Char} (visible : isBlank c = false) : (readName previous (c :: rest)).Continues
      more (readName previous (c :: rest ++ ',' :: more)) := by
  cases found : cut? nameStops (c :: rest) with
  | none =>
    rw [readName, found]
    trivial
  | some parts =>
    rcases parts with ⟨taken, after⟩
    rw [readName, readName, found, cut?_continued rfl found]
    dsimp only
    split
    · next nameless =>
      cases after with
      | nil =>
        -- the whole text would be the name, and it starts with a visible character
        obtain ⟨kept, same⟩ := exists_trim_eq_cons visible rest
        rw [cut?_eq_some found, List.append_nil, nameless] at same
        cases same
      | cons d after =>
        rw [List.cons_append]
        unfold readNameless
        split <;> simp_all [Turn.Continues]
    · exact readAfterName_continues noClose _ _ _

/-- A group that closes is closed whatever comes behind the list. -/
theorem readGroup_continues (depth : Nat) (text more : List Char) :
    (readGroup depth text).Continues more (readGroup depth (text ++ ',' :: more)) := by
  unfold readGroup
  split
  · trivial
  cases found : splitClose? '[' ']' 0 text with
  | none => trivial
  | some parts =>
    rcases parts with ⟨inner, rest⟩
    have again := splitClose?_replaceRest found (rest ++ ',' :: more)
    rw [splitClose?_eq_some found, List.append_assoc, List.cons_append, again]
    rfl

theorem readGroupedName_continues (noClose : ']' ∉ more) (text : List Char) :
    (readGroupedName text).Continues more (readGroupedName (text ++ ',' :: more)) := by
  cases found : splitClose? '(' ')' 0 text with
  | none =>
    rw [readGroupedName, found]
    trivial
  | some parts =>
    rcases parts with ⟨inner, rest⟩
    have again := splitClose?_replaceRest found (rest ++ ',' :: more)
    rw [readGroupedName, readGroupedName, found, splitClose?_eq_some found, List.append_assoc,
      List.cons_append, again]
    dsimp only
    rw [trimStart_continued]
    exact readOptionalDefault_continues noClose _ _

theorem dropSeparators_append {body : List Char} {c : Char} {rest : List Char}
    (start : body.dropWhile isSeparator = c :: rest) (other : List Char) :
    (body ++ other).dropWhile isSeparator = c :: rest ++ other := by
  have notSeparator : ¬isSeparator c = true := by
    have first := List.head?_dropWhile_not isSeparator body
    rw [start] at first
    simpa using first
  rw [← List.takeWhile_append_dropWhile (p := isSeparator) (l := body), start, List.append_assoc,
    List.dropWhile_append_of_pos fun d inside => List.mem_takeWhile_imp inside, List.cons_append,
    List.dropWhile_cons_of_neg notSeparator]

/-- A turn that reads something reads it in front of a comma and more text as
well. -/
theorem Turn.continues_nextTurn (noClose : ']' ∉ more) (depth : Nat) (previous : Option Argument)
    {body : List Char} (nonempty : body.dropWhile isSeparator ≠ []) :
    (nextTurn depth previous body).Continues more
      (nextTurn depth previous (body ++ ',' :: more)) := by
  cases start : body.dropWhile isSeparator with
  | nil => exact absurd start nonempty
  | cons c rest =>
    rw [nextTurn, nextTurn, start, dropSeparators_append start, List.cons_append]
    have visible : isBlank c = false := by
      have first := List.head?_dropWhile_not isSeparator body
      rw [start] at first
      simp only [List.head?_cons, isSeparator, Bool.or_eq_false_iff] at first
      exact first.1
    split
    · next same => cases same
    · next same =>
      obtain ⟨rfl, rfl⟩ := List.cons.inj same
      exact readGroup_continues depth rest more
    · next same =>
      obtain ⟨rfl, rfl⟩ := List.cons.inj same
      exact readGroupedName_continues noClose rest
    · next d _ notGroup notGroupedName same =>
      obtain ⟨rfl, rfl⟩ := List.cons.inj same
      split
      · next same => cases same
      · next same => exact absurd (List.cons.inj same).1 notGroup
      · next same => exact absurd (List.cons.inj same).1 notGroupedName
      · next same =>
        obtain ⟨rfl, rfl⟩ := List.cons.inj same
        exact readName_continues noClose previous visible

end CallSig.Parse
