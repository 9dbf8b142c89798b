import Mathlib.Order.Bounds.Basic
import CallSig.Proofs.Bracket.Counting
import CallSig.Proofs.Bracket.WellNested
import CallSig.Proofs.Octet.Agreement
import CallSig.Proofs.Parse.Boundary

/-!
# Places where brackets close

A bracket is closed in two ways. The structural matcher counts one pair, and the place that
it finds is the first one at which the counts of opener and closer meet
(`matchingClose?_isLeast`). A scan keeps the closers that are due, and a bracket that it
meets is one construct: it goes on behind the close that `groupClose?` gives
(`scanTo?_bracket`).

On well-nested text the two ways give one place, so a bracket ends at the same place whatever
it is read as (`groupClose?_eq_matchingClose?`).
-/

namespace CallSig.Octet

open CallSig.Bracket CallSig.Parse CallSig.Text

variable {text upTo : String} {opener closer : Char} {stops inner before after rest : List Char}
  {place stop : Nat}

theorem utf8Length_concat (before : List Char) (c : Char) :
    utf8Length (before ++ [c]) = utf8Length before + c.utf8Size := by
  rw [utf8Length_append, utf8Length_cons, utf8Length_nil, Nat.add_zero]

/-! ## Where the counts meet -/

/-- The closer stands at the place, and the text up to its end holds as many openers as
closers. -/
structure BalancesAt (text : String) (opener closer : Char) (place : Nat) : Prop where
  stands : slice? text place (place + closer.utf8Size) = some (.singleton closer)
  even : ∃ upTo, slice? text 0 (place + closer.utf8Size) = some upTo ∧
    upTo.toList.count opener = upTo.toList.count closer

theorem slice?_upToEnd (whole : text.toList = before ++ closer :: after) :
    slice? text 0 (utf8Length before + closer.utf8Size) = some (.ofList (before ++ [closer])) := by
  refine slice?_zero_eq_some_iff.mpr ⟨after, ?_, ?_⟩
  · rw [String.toList_ofList, whole, List.append_assoc, List.singleton_append]
  · rw [String.toList_ofList, utf8Length_concat]

theorem balancesAt_iff : BalancesAt text opener closer place ↔
    ∃ before after, text.toList = before ++ closer :: after ∧ utf8Length before = place ∧
      (before ++ [closer]).count opener = (before ++ [closer]).count closer := by
  constructor
  · rintro ⟨stands, upTo, sliced, even⟩
    obtain ⟨before, after, whole, rfl, -⟩ := slice?_eq_some_iff.mp stands
    rw [String.toList_singleton, List.singleton_append] at whole
    obtain rfl : _ = upTo := Option.some.inj ((slice?_upToEnd whole).symm.trans sliced)
    rw [String.toList_ofList] at even
    exact ⟨before, after, whole, rfl, even⟩
  · rintro ⟨before, after, whole, rfl, even⟩
    refine ⟨slice?_eq_some_iff.mpr ⟨before, after, ?_, rfl, ?_⟩, _, slice?_upToEnd whole, ?_⟩
    · rw [String.toList_singleton, List.singleton_append, whole]
    · rw [String.toList_singleton, utf8Length_cons, utf8Length_nil, Nat.add_zero]
    · rw [String.toList_ofList, even]

/-- The content of a bracket ends at the first place where the counts meet. -/
theorem isLeast_of_closing (other : closer ≠ opener)
    (whole : text.toList = opener :: inner ++ closer :: after)
    (closing : Closing opener closer 0 inner) :
    IsLeast {place | BalancesAt text opener closer place} (utf8Length (opener :: inner)) := by
  refine ⟨balancesAt_iff.mpr ⟨opener :: inner, after, whole, rfl, closing.count_eq other⟩, ?_⟩
  intro place balances
  obtain ⟨before, rest, same, rfl, even⟩ := balancesAt_iff.mp balances
  have notInside : ¬before ++ [closer] <+: opener :: inner := by
    intro inside
    have less := closing.notBelow.count_lt other (by simp) inside
    omega
  have isBefore : before ++ [closer] <+: text.toList := ⟨rest, by rw [same]; simp⟩
  have isContent : opener :: inner <+: text.toList := ⟨closer :: after, whole.symm⟩
  have longer := (List.prefix_or_prefix_of_prefix isBefore isContent).resolve_left notInside
  rcases List.prefix_concat_iff.mp longer with all | ⟨extra, rfl⟩
  · rw [all] at notInside
    exact absurd List.prefix_rfl notInside
  · rw [utf8Length_append]
    exact Nat.le_add_right _ _

/-- The close that is found stands behind a content that closes what it opens. -/
theorem matchingClose?_eq_some_iff (other : closer ≠ opener) :
    matchingClose? text opener closer = some place ↔
      ∃ inner after, text.toList = opener :: inner ++ closer :: after ∧
        Closing opener closer 0 inner ∧ utf8Length (opener :: inner) = place := by
  simp only [matchingClose?, Option.map_eq_some_iff, Prod.exists, group?_eq_some_iff other,
    and_assoc, List.cons_append]

/-- Where the counts meet there is a close. -/
theorem exists_closing_of_balancesAt (other : closer ≠ opener)
    (starts : text.toList.head? = some opener) (balances : BalancesAt text opener closer place) :
    ∃ inner after, text.toList = opener :: inner ++ closer :: after ∧
      Closing opener closer 0 inner := by
  obtain ⟨rest, whole⟩ := List.head?_eq_some_iff.mp starts
  cases found : group? opener closer text.toList with
  | some both =>
    rcases both with ⟨inner, after⟩
    exact ⟨inner, after, (group?_eq_some_iff other).mp found⟩
  | none =>
    rw [whole, group?, if_pos rfl, splitClose?_eq_none_iff other] at found
    obtain ⟨before, after, same, -, even⟩ := balancesAt_iff.mp balances
    have isBefore : before ++ [closer] <+: opener :: rest := ⟨after, by rw [← whole, same]; simp⟩
    have less := found.count_lt other (by simp) isBefore
    omega

/-- The match of a bracket is the first place where the counts of opener and closer meet. -/
theorem matchingClose?_eq_some_iff_isLeast (other : closer ≠ opener) :
    matchingClose? text opener closer = some place ↔
      text.toList.head? = some opener ∧
        IsLeast {place | BalancesAt text opener closer place} place := by
  rw [matchingClose?_eq_some_iff other]
  constructor
  · rintro ⟨inner, after, whole, closing, rfl⟩
    exact ⟨by rw [whole]; rfl, isLeast_of_closing other whole closing⟩
  · rintro ⟨starts, least⟩
    obtain ⟨inner, after, whole, closing⟩ := exists_closing_of_balancesAt other starts least.1
    exact ⟨inner, after, whole, closing, (isLeast_of_closing other whole closing).unique least⟩

/-- In front of the end of a bracket the openers are ahead. -/
theorem count_lt_of_slice? (other : closer ≠ opener)
    (whole : text.toList = opener :: inner ++ closer :: after)
    (closing : Closing opener closer 0 inner) (positive : 0 < stop)
    (inside : stop < utf8Length (opener :: inner) + closer.utf8Size)
    (sliced : slice? text 0 stop = some upTo) :
    upTo.toList.count closer < upTo.toList.count opener := by
  obtain ⟨rest, same, rfl⟩ := slice?_zero_eq_some_iff.mp sliced
  have size : utf8Length (opener :: inner ++ [closer]) =
      utf8Length (opener :: inner) + closer.utf8Size := utf8Length_concat (opener :: inner) closer
  have isBracket : opener :: inner ++ [closer] <+: text.toList := ⟨after, by rw [whole]; simp⟩
  have isBefore : upTo.toList <+: opener :: inner ++ [closer] :=
    isPrefix_of_utf8Length_le ⟨rest, same.symm⟩ isBracket (by omega)
  rcases List.prefix_concat_iff.mp isBefore with all | shorter
  · rw [all, size] at inside
    exact absurd inside (Nat.lt_irrefl _)
  · have nonempty : upTo.toList ≠ [] := by
      intro empty
      rw [empty] at positive
      exact absurd positive (Nat.lt_irrefl 0)
    exact closing.notBelow.count_lt other nonempty shorter

/-- A signature is read from the list that the text starts with. -/
theorem parseSignature_eq_of_group? {other : String} {body behind : List Char}
    (found : group? '(' ')' text.toList = some (body, after))
    (again : group? '(' ')' other.toList = some (body, behind)) :
    parseSignature other = parseSignature text := by
  simp only [parseSignature, Parse.readSignature, found, again]

/-- The match of a bracket is the first place where the text up to there holds as many closers
as openers, and in front of it the openers are ahead. What comes behind the close has no part
in where it is, nor in the signature that is read up to there. A bracket that is closed by its
own opener has no match. -/
theorem matchingClose?_isLeast (text : String) (opener closer : Char) :
    (opener ≠ closer → ∀ place, matchingClose? text opener closer = some place ↔
      text.toList.head? = some opener ∧
        IsLeast {place | BalancesAt text opener closer place} place) ∧
    (∀ place, matchingClose? text opener closer = some place →
      (∀ stop before, 0 < stop → stop < place + closer.utf8Size →
        slice? text 0 stop = some before →
        before.toList.count closer < before.toList.count opener) ∧
      ∃ upTo, slice? text 0 (place + closer.utf8Size) = some upTo ∧
        ∀ other, matchingClose? (upTo ++ other) opener closer = some place ∧
          (opener = '(' → closer = ')' →
            parseSignature (upTo ++ other) = parseSignature text)) ∧
    (opener = closer → matchingClose? text opener closer = none) := by
  have same : opener = closer → matchingClose? text opener closer = none := by
    rintro rfl
    rw [matchingClose?, group?_same, Option.map_none]
  refine ⟨fun other place => matchingClose?_eq_some_iff_isLeast other.symm, ?_, same⟩
  intro place found
  have other : closer ≠ opener := by
    rintro rfl
    rw [same rfl] at found
    cases found
  obtain ⟨inner, after, whole, closing, rfl⟩ := (matchingClose?_eq_some_iff other).mp found
  refine ⟨fun stop before positive inside sliced =>
    count_lt_of_slice? other whole closing positive inside sliced, ?_⟩
  have isUpTo : slice? text 0 (utf8Length (opener :: inner) + closer.utf8Size) =
      some (.ofList (opener :: inner ++ [closer])) := slice?_upToEnd whole
  refine ⟨_, isUpTo, fun more => ?_⟩
  have again : (.ofList (opener :: inner ++ [closer]) ++ more : String).toList =
      opener :: inner ++ closer :: more.toList := by simp
  refine ⟨(matchingClose?_eq_some_iff other).mpr ⟨inner, more.toList, again, closing, rfl⟩, ?_⟩
  rintro rfl rfl
  exact parseSignature_eq_of_group? ((group?_eq_some_iff other).mpr ⟨whole, closing⟩)
    ((group?_eq_some_iff other).mpr ⟨again, closing⟩)

/-- The brackets take two octets each, as the letter in them does. In the second text a
bracket that is never closed comes behind the list. -/
theorem matchingClose?_isLeast_guillemets :
    (matchingClose? "«é«»»→»" '«' '»' = some 8 ∧
      IsLeast {place | BalancesAt "«é«»»→»" '«' '»' place} 8 ∧
      ∀ other, matchingClose? ("«é«»»" ++ other) '«' '»' = some 8) ∧
    (∀ other, parseSignature ("(a, (b))" ++ other) = parseSignature "(a, (b)) -> (c") ∧
    matchingClose? "||" '|' '|' = none := by
  have found : matchingClose? "«é«»»→»" '«' '»' = some 8 := by decide +kernel
  have list : matchingClose? "(a, (b)) -> (c" '(' ')' = some 7 := by decide +kernel
  obtain ⟨isMatch, isEnd, -⟩ := matchingClose?_isLeast "«é«»»→»" '«' '»'
  obtain ⟨-, upTo, sliced, replaced⟩ := isEnd 8 found
  have known : slice? "«é«»»→»" 0 (8 + '»'.utf8Size) = some "«é«»»" := by decide +kernel
  obtain rfl : upTo = "«é«»»" := Option.some.inj (sliced.symm.trans known)
  obtain ⟨-, upToList, slicedList, replacedList⟩ :=
    (matchingClose?_isLeast "(a, (b)) -> (c" '(' ')').2.1 7 list
  have knownList : slice? "(a, (b)) -> (c" 0 (7 + ')'.utf8Size) = some "(a, (b))" := by
    decide +kernel
  obtain rfl : upToList = "(a, (b))" := Option.some.inj (slicedList.symm.trans knownList)
  exact ⟨⟨found, ((isMatch (by decide) 8).mp found).2, fun other => (replaced other).1⟩,
    fun other => (replacedList other).2 rfl rfl, (matchingClose?_isLeast "||" '|' '|').2.2 rfl⟩

/-! ## A bracket is one construct -/

/-- The place of the closer of the bracket that a text starts with, read as one construct. -/
def groupClose? (text : String) : Option Nat :=
  (skipGroup? text.toList).map fun (group, _) => utf8Length group.dropLast

/-- A bracket that is skipped closes where its last character stands. -/
theorem groupClose?_of_skipGroup?
    (skipped : skipGroup? text.toList = some (opener :: inner ++ [closer], after)) :
    groupClose? text = some (utf8Length (opener :: inner)) := by
  rw [groupClose?, skipped, Option.map_some]
  exact congrArg (fun content => some (utf8Length content)) List.dropLast_concat

/-- What follows the bracket that a text starts with is the text from behind its close. -/
theorem exists_groupClose? {group : List Char}
    (skipped : skipGroup? text.toList = some (group, after)) :
    ∃ place, groupClose? text = some place ∧ utf8Length group = place + 1 ∧
      sliceFrom text (place + 1) = .ok (.ofList after) := by
  obtain ⟨opener, closer, inner, closes, rfl, parts, -⟩ := skipGroup?_eq_some_iff.mp skipped
  have size : utf8Length (opener :: inner ++ [closer]) = utf8Length (opener :: inner) + 1 := by
    rw [utf8Length_concat, utf8Size_of_ascii (ascii_of_closer? closes)]
  refine ⟨utf8Length (opener :: inner), groupClose?_of_skipGroup? skipped, size, ?_⟩
  rw [← size, ← String.ofList_toList (s := text), parts]
  exact sliceFrom_append _ after

/-- The reader by places finds the close without a fault. -/
theorem groupEnd_eq_groupClose? (text : String) : groupEnd text = .ok (groupClose? text) := by
  have found := groupEnd_eq text.toList
  rw [String.ofList_toList] at found
  rw [found]
  cases skipped : skipGroup? text.toList with
  | none => rw [groupClose?, skipped, Option.map_none, Option.map_none]
  | some both =>
    rcases both with ⟨group, after⟩
    obtain ⟨place, closed, size, -⟩ := exists_groupClose? skipped
    simp only [closed, Option.map_some, size, Nat.add_sub_cancel]

/-- A scan that meets an opener that is no stop takes the bracket whole and goes on behind it. -/
theorem cut?_bracket (starts : text.toList.head? = some opener)
    (opens : opener ∈ ['(', '[', '{']) (noStop : opener ∉ stops) :
    cut? stops text.toList = (skipGroup? text.toList).bind fun (group, after) =>
      (cut? stops after).map fun (taken, left) => (group ++ taken, left) := by
  obtain ⟨rest, whole⟩ := List.head?_eq_some_iff.mp starts
  have bracket : ∃ closer, closer? opener = some closer ∧ opener ≠ '<' := by
    simp only [List.mem_cons, List.not_mem_nil, or_false] at opens
    rcases opens with rfl | rfl | rfl <;> exact ⟨_, rfl, by decide⟩
  obtain ⟨closer, closes, notAngle⟩ := bracket
  have goesOn : Bracket.isStop stops opener = false := by simp [Bracket.isStop, noStop]
  rw [whole, cut?_opener closes notAngle goesOn rest]

/-- A scan that meets a bracket goes on behind its close as on a text of its own, and fails
where the bracket does not close. -/
theorem scanTo?_bracket (starts : text.toList.head? = some opener)
    (opens : opener ∈ ['(', '[', '{']) (noStop : opener ∉ stops) :
    groupEnd text = .ok (groupClose? text) ∧
      (groupClose? text = none → Bracket.scanTo? text stops = none) ∧
      ∀ place, groupClose? text = some place → ∃ behind,
        sliceFrom text (place + 1) = .ok behind ∧
          Bracket.scanTo? text stops = (Bracket.scanTo? behind stops).map (place + 1 + ·) := by
  have through := cut?_bracket starts opens noStop
  refine ⟨groupEnd_eq_groupClose? text, ?_⟩
  cases skipped : skipGroup? text.toList with
  | none =>
    have unclosed : groupClose? text = none := by rw [groupClose?, skipped, Option.map_none]
    refine ⟨fun _ => ?_, fun place found => ?_⟩
    · rw [Bracket.scanTo?, through, skipped, Option.bind_none, Option.map_none]
    · rw [unclosed] at found
      cases found
  | some both =>
    rcases both with ⟨group, after⟩
    obtain ⟨close, closed, size, behind⟩ := exists_groupClose? skipped
    refine ⟨fun unclosed => ?_, fun place found => ?_⟩
    · rw [closed] at unclosed
      cases unclosed
    · obtain rfl : close = place := Option.some.inj (closed.symm.trans found)
      refine ⟨.ofList after, behind, ?_⟩
      rw [Bracket.scanTo?, Bracket.scanTo?, through, skipped, Option.bind_some,
        String.toList_ofList, Option.map_map, Option.map_map, ← size]
      cases cut? stops after with
      | none => rfl
      | some both => exact congrArg some (utf8Length_append group both.1)

/-- In the first bracket a `<` is a comparison, and a `)` stands in a string. The second one
is not closed by the bracket of another kind. -/
theorem scanTo?_bracket_round :
    (groupClose? "(n<2, ')') é<v>, b" = some 9 ∧
      Bracket.scanTo? "(n<2, ')') é<v>, b" [','] =
        (Bracket.scanTo? " é<v>, b" [',']).map (9 + 1 + ·)) ∧
    groupClose? "(a, b], c" = none ∧ Bracket.scanTo? "(a, b], c" [','] = none := by
  have closed : groupClose? "(n<2, ')') é<v>, b" = some 9 := by decide +kernel
  have unclosed : groupClose? "(a, b], c" = none := by decide +kernel
  have starts : "(n<2, ')') é<v>, b".toList.head? = some '(' := by decide +kernel
  have startsUnclosed : "(a, b], c".toList.head? = some '(' := by decide +kernel
  have noStop : '(' ∉ [','] := by decide
  obtain ⟨behind, sliced, goesOn⟩ := (scanTo?_bracket starts (by decide) noStop).2.2 9 closed
  have known : sliceFrom "(n<2, ')') é<v>, b" (9 + 1) = .ok " é<v>, b" := by decide +kernel
  obtain rfl : behind = " é<v>, b" := Except.ok.inj (sliced.symm.trans known)
  exact ⟨⟨closed, goesOn⟩, unclosed,
    (scanTo?_bracket startsUnclosed (by decide) noStop).2.1 unclosed⟩

/-! ## Well-nested brackets -/

/-- A bracket of well-nested text ends at the same place whatever comes behind it, and whatever
it is read as: by the scan, by the structural matcher, as a default value, as a grouped name,
as a subscript of a type, or as an optional group. -/
theorem groupClose?_eq_matchingClose? (pair : StructuralPair opener closer)
    (nested : WellNested inner) (whole : text.toList = opener :: inner ++ closer :: after) :
    (groupClose? text = some (utf8Length (opener :: inner)) ∧
      matchingClose? text opener closer = some (utf8Length (opener :: inner))) ∧
    parseDefault? text = some (.ofList (opener :: inner ++ [closer]), .ofList after) ∧
    (opener = '(' → ∀ depth previous, nextTurn depth previous text.toList =
      readOptionalDefault (.named (.ofList (opener :: inner ++ [closer]))) (trimStart after)) ∧
    (opener = '[' → startsOptionalGroup inner = false →
      cutType? text.toList = (cutType? after).map fun (more, left) =>
        (opener :: inner ++ [closer] ++ more, left)) ∧
    (opener = '[' → ∀ depth previous, depth < maxGroupDepth →
      nextTurn depth previous text.toList = .group inner after) := by
  have closes : closer? opener = some closer := by
    rcases pair with ⟨rfl, rfl⟩ | ⟨rfl, rfl⟩ <;> rfl
  have opens : opensValue opener = true := by
    rcases pair with ⟨rfl, rfl⟩ | ⟨rfl, rfl⟩ <;> rfl
  have notAngle : opener ≠ '<' := by
    rintro rfl
    cases opens
  have skipped : skipGroup? (opener :: (inner ++ closer :: after)) =
      some (opener :: inner ++ [closer], after) := nested.skipGroup? closes notAngle after
  have split : splitClose? opener closer 0 (inner ++ closer :: after) = some (inner, after) :=
    (nested.neutral pair).splitClose? pair.closer_ne after
  rw [List.cons_append] at whole
  refine ⟨⟨groupClose?_of_skipGroup? (whole ▸ skipped), ?_⟩, ?_, ?_, ?_, ?_⟩
  · rw [matchingClose?, whole, group?, if_pos rfl, split, Option.map_some]
  · have start : trimStart text.toList = opener :: (inner ++ closer :: after) := by
      rw [whole, trimStart_eq_self (isBlank_of_closer? closes).1]
    rw [parseDefault?, splitDefault?_of_opensValue start opens, skipped, Option.map_some]
  · rintro rfl depth previous
    obtain rfl : ')' = closer := Option.some.inj closes
    have turn : nextTurn depth previous ('(' :: (inner ++ ')' :: after)) =
        Parse.readGroupedName (inner ++ ')' :: after) := rfl
    rw [whole, turn, Parse.readGroupedName, split]
  · rintro rfl required
    obtain rfl : ']' = closer := Option.some.inj closes
    rw [← startsOptionalGroup_closed inner after] at required
    rw [whole, cutType?_subscript required skipped]
  · rintro rfl depth previous shallow
    obtain rfl : ']' = closer := Option.some.inj closes
    rw [whole, nextTurn_of_splitClose? shallow split previous]

/-- A list with a dictionary in it, in front of brackets that close nothing. -/
theorem groupClose?_eq_matchingClose?_list :
    StructuralPair '[' ']' ∧ WellNested "a, {b > (c)}".toList ∧
      groupClose? "[a, {b > (c)}])[('" = some 13 ∧
      matchingClose? "[a, {b > (c)}])[('" '[' ']' = some 13 ∧
      parseDefault? "[a, {b > (c)}])[('" = some ("[a, {b > (c)}]", ")[('") := by
  have pair : StructuralPair '[' ']' := .inr ⟨rfl, rfl⟩
  have nested : WellNested "a, {b > (c)}".toList :=
    .char rfl rfl (by decide) (.char rfl rfl (by decide) (.char rfl rfl (by decide)
      (@WellNested.group '{' '}' "b > (c)".toList [] rfl (by decide)
        (.char rfl rfl (by decide) (.char rfl rfl (by decide) (.char rfl rfl (by decide)
          (.char rfl rfl (by decide) (@WellNested.group '(' ')' ['c'] [] rfl (by decide)
            (.char rfl rfl (by decide) .nil) .nil))))) .nil)))
  have whole : "[a, {b > (c)}])[('".toList =
      '[' :: "a, {b > (c)}".toList ++ ']' :: ")[('".toList := by decide +kernel
  obtain ⟨⟨close, same⟩, value, -⟩ := groupClose?_eq_matchingClose? pair nested whole
  exact ⟨pair, nested, close, same, value⟩

end CallSig.Octet
