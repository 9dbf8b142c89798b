import Mathlib.Data.List.Pairwise
import CallSig.Proofs.Parse.Placement

/-!
# What is given up

A construct is given up when a quote or a bracket in it does not close, or when
it is a group that stands in too many others (`GivenUp`). It ends the list that it
stands in: from its start to the end of that list nothing is read. A list around
that one goes on behind the bracket, so arguments may come behind a construct that
is given up in a group. `parseSignature_givenUp` says where they can stand.
-/

namespace CallSig

open CallSig.Bracket CallSig.Octet CallSig.Text

namespace Parse

/-- The text starts with a construct that cannot be read, for this reason. -/
inductive GivenUp : Abandonment → List Char → Prop
  | groupedName {rest : List Char} : splitClose? '(' ')' 0 rest = none →
      GivenUp (.unbalancedGroupedName (.ofList ('(' :: rest))) ('(' :: rest)
  | name {text : List Char} : cut? nameStops text = none →
      GivenUp (.unclosedName (.ofList text)) text
  | type {rest : List Char} (name : String) : splitType? rest = none →
      GivenUp (.unclosedType name) (':' :: rest)
  | default {rest : List Char} (name : String) : splitDefault? rest = none →
      GivenUp (.unclosedDefault name) ('=' :: rest)
  | tooDeep (rest : List Char) : GivenUp .groupsTooDeep ('[' :: rest)
  | group {rest : List Char} : splitClose? '[' ']' 0 rest = none →
      GivenUp (.unbalancedOptionalGroup (.ofList ('[' :: rest))) ('[' :: rest)

variable {why : Abandonment} {text taken rest : List Char} {type : Option String}

theorem GivenUp.ne_nil (givenUp : GivenUp why text) : text ≠ [] := by
  rintro rfl
  rcases givenUp with _ | unclosed
  cases unclosed

/-! ## Turns -/

/-- What a turn gives up is the rest of the list, and an argument that it reads
nevertheless stands in front of that. -/
def Turn.Leaves (body : List Char) : Turn → Prop
  | .abandoned why => ∃ gap rest, body = gap ++ rest ∧ GivenUp why rest
  | .argument arg (.abandoned why) =>
    ∃ taken rest, body = taken ++ rest ∧ StandsIn arg taken ∧ GivenUp why rest
  | _ => True

theorem Turn.Leaves.prepend {turn : Turn} {body : List Char} (leaves : turn.Leaves body)
    (front : List Char) : turn.Leaves (front ++ body) := by
  cases turn with
  | abandoned why =>
    obtain ⟨gap, rest, rfl, givenUp⟩ := leaves
    exact ⟨front ++ gap, rest, by simp, givenUp⟩
  | argument arg after =>
    cases after with
    | more rest => trivial
    | finished => trivial
    | abandoned why =>
      obtain ⟨taken, rest, rfl, standsIn, givenUp⟩ := leaves
      exact ⟨front ++ taken, rest, by simp, standsIn.prepend front, givenUp⟩
  | _ => trivial

/-- The turn reads the named argument, and what it gives up stands behind the type
that it has. -/
def Turn.LeavesParts (name : String) (text : List Char) : Turn → Prop
  | .argument arg (.abandoned why) => ∃ type typeText rest, arg = ⟨name, type, none, false⟩ ∧
    text = typeText ++ rest ∧ PartIn type typeText ∧ GivenUp why rest
  | .argument _ _ => True
  | _ => False

theorem Turn.LeavesParts.prepend {name : String} {turn : Turn}
    (parts : turn.LeavesParts name text) (gap : List Char) :
    turn.LeavesParts name (gap ++ text) := by
  cases turn with
  | argument arg after =>
    cases after with
    | more rest => trivial
    | finished => trivial
    | abandoned why =>
      obtain ⟨type, typeText, rest, rfl, rfl, inType, givenUp⟩ := parts
      exact ⟨type, gap ++ typeText, rest, rfl, by simp, inType.append gap, givenUp⟩
  | _ => exact parts.elim

theorem readDefault_leaves (name : String) (inTaken : PartIn type taken) (text : List Char) :
    (readDefault ⟨name, type, none, false⟩ text).LeavesParts name (taken ++ '=' :: text) := by
  unfold readDefault
  split
  · trivial
  · next unclosed => exact ⟨type, taken, '=' :: text, rfl, rfl, inTaken, .default name unclosed⟩

theorem readOptionalDefault_leaves (name : String) (inTaken : PartIn type taken)
    (text : List Char) : (readOptionalDefault ⟨name, type, none, false⟩ text).LeavesParts name
      (taken ++ text) := by
  unfold readOptionalDefault
  split
  · exact readDefault_leaves name inTaken _
  · trivial

/-- A type that does not end is given up from its mark on. -/
theorem readType_leaves (name written : String) (text : List Char) :
    (readType written ⟨name, none, none, false⟩ text).LeavesParts name (':' :: text) := by
  unfold readType
  split
  · next found =>
    obtain ⟨typeText, rfl, inType⟩ := partIn_of_splitType? found
    exact readOptionalDefault_leaves name (inType.append [':']) _
  · next unclosed => exact ⟨none, [], ':' :: text, rfl, rfl, .none [], .type written unclosed⟩

/-- What is given up behind a name is its type or its default value. -/
theorem readAfterName_leaves (name written : String) (text : List Char) :
    (readAfterName written ⟨name, none, none, false⟩ text).LeavesParts name text := by
  unfold readAfterName
  split
  · exact readType_leaves name written _
  · exact readDefault_leaves name (PartIn.none []) _
  all_goals trivial

/-- A name and the parts that are read behind it stand in front of what is given
up. -/
theorem Turn.LeavesParts.leaves {name : String} {turn : Turn} {written : List Char}
    (parts : turn.LeavesParts name text) (writtenAs : WrittenAs name written)
    (nonempty : written ≠ []) : turn.Leaves (written ++ text) := by
  cases turn with
  | argument arg after =>
    cases after with
    | more rest => trivial
    | finished => trivial
    | abandoned why =>
      obtain ⟨type, typeText, rest, rfl, rfl, inType, givenUp⟩ := parts
      have standsIn : StandsIn ⟨name, type, none, false⟩ ([] ++ (written ++ (typeText ++ []))) :=
        .parts writtenAs nonempty inType (.none [])
      exact ⟨_, rest, by simp, standsIn, givenUp⟩
  | _ => exact parts.elim

/-- A name that does not end is given up from its start on. -/
theorem readName_leaves (previous : Option Argument) (text : List Char) :
    (readName previous text).Leaves text := by
  unfold readName
  split
  · next unclosed => exact ⟨[], text, rfl, .name unclosed⟩
  · next taken after found =>
    rw [cut?_eq_some found]
    split
    · unfold readNameless
      split <;> trivial
    · next visible =>
      obtain ⟨before, behind, name, shape, same, writtenAs⟩ := exists_written previous taken after
      have parts := (readAfterName_leaves name (String.ofList (trim taken)) after).prepend behind
      rw [same, shape]
      exact (parts.leaves writtenAs visible).prepend before

/-- A group that does not end, or stands too deep, is given up from its bracket on. -/
theorem readGroup_leaves (depth : Nat) (text : List Char) :
    (readGroup depth text).Leaves ('[' :: text) := by
  unfold readGroup
  split
  · exact ⟨[], '[' :: text, rfl, .tooDeep text⟩
  · split
    · next unclosed => exact ⟨[], '[' :: text, rfl, .group unclosed⟩
    · trivial

theorem readGroupedName_leaves (text : List Char) :
    (readGroupedName text).Leaves ('(' :: text) := by
  unfold readGroupedName
  split
  · next unclosed => exact ⟨[], '(' :: text, rfl, .groupedName unclosed⟩
  · next inner rest found =>
    obtain ⟨before, -, whole⟩ := exists_eq_append_trimStart rest
    have parts := (readOptionalDefault_leaves (String.ofList ('(' :: inner ++ [')']))
      (PartIn.none []) (trimStart rest)).prepend before
    rw [List.nil_append, ← whole] at parts
    have leaves := parts.leaves (.inl String.toList_ofList.symm) (by simp)
    have shape : '(' :: (inner ++ ')' :: rest) = '(' :: inner ++ [')'] ++ rest := by simp
    rw [splitClose?_eq_some found, shape]
    exact leaves

/-- What a turn gives up reaches to the end of the list. -/
theorem Turn.leaves_nextTurn (depth : Nat) (previous : Option Argument) (body : List Char) :
    (nextTurn depth previous body).Leaves body := by
  suffices leaves : (nextTurn depth previous body).Leaves (body.dropWhile isSeparator) by
    have whole := leaves.prepend (body.takeWhile isSeparator)
    rwa [List.takeWhile_append_dropWhile] at whole
  unfold nextTurn
  split
  · trivial
  · next rest same =>
    rw [same]
    exact readGroup_leaves depth rest
  · next rest same =>
    rw [same]
    exact readGroupedName_leaves rest
  · next c rest _ _ same =>
    rw [same]
    exact readName_leaves previous _

end Parse

/-! ## Pieces of a list -/

/-- What stands in a list: an argument that is read, or what is given up. -/
inductive Piece where
  | argument (place : Placement)
  | givenUp (why : Parse.Abandonment) (range : Span)
  deriving Repr, DecidableEq

namespace Piece

def spans : Piece → List Span
  | .argument place => place.spans
  | .givenUp _ range => [range]

def place? : Piece → Option Placement
  | .argument place => some place
  | .givenUp _ _ => none

def why? : Piece → Option Parse.Abandonment
  | .argument _ => none
  | .givenUp why _ => some why

/-- What is given up reaches to the end of the text's list, at the place `stop`, or to
the bracket that closes a group in it. -/
def Ends (text : String) (stop : Nat) : Piece → Prop
  | .argument _ => True
  | .givenUp why range => ∃ rest, range.text? text = some (.ofList rest) ∧ Parse.GivenUp why rest ∧
    (range.stop = stop ∨ (Span.mk range.stop (range.stop + 1)).text? text = some "]")

/-- The ranges of the pieces do not overlap. -/
def Apart (one other : Piece) : Prop :=
  ∀ span ∈ one.spans, ∀ range ∈ other.spans, span.stop ≤ range.start ∨ range.stop ≤ span.start

instance : Std.Symm Apart where
  symm _ _ apart range inRange span inSpan := (apart span inSpan range inRange).symm

end Piece

/-- The reason for which something was given up. -/
def Parse.Event.why? : Parse.Event → Option Parse.Abandonment
  | .parsed _ => none
  | .abandoned why => some why

namespace Parse

/-- What was read of a list, and what was given up, stands in these pieces between two
places; the list itself ends at the place `stop`. -/
structure Pieced (text : String) (stop first : Nat) (reading : Reading) (pieces : List Piece)
    (last : Nat) : Prop where
  standAt : List.Forall₂ (fun arg place => arg.StandsAt text place) reading.args
    (pieces.filterMap Piece.place?)
  reasons : reading.events.filterMap Event.why? = pieces.filterMap Piece.why?
  inOrder : InOrder first (pieces.flatMap Piece.spans) last
  ends : ∀ piece ∈ pieces, piece.Ends text stop

variable {whole : String} {stop first middle last : Nat} {reading other : Reading}
  {pieces more : List Piece} {arg : Argument}

theorem Pieced.nil (le : first ≤ last) : Pieced whole stop first .empty [] last where
  standAt := .nil
  reasons := rfl
  inOrder := le
  ends := fun _ inside => nomatch inside

theorem Pieced.mono_left {lower : Nat} (pieced : Pieced whole stop first reading pieces last)
    (le : lower ≤ first) : Pieced whole stop lower reading pieces last where
  standAt := pieced.standAt
  reasons := pieced.reasons
  inOrder := pieced.inOrder.mono_left le
  ends := pieced.ends

/-- Two stretches, one behind the other, have the pieces of both. -/
theorem Pieced.append (before : Pieced whole stop first reading pieces middle)
    (after : Pieced whole stop middle other more last) :
    Pieced whole stop first (reading ++ other) (pieces ++ more) last where
  standAt := by
    rw [List.filterMap_append]
    exact List.rel_append before.standAt after.standAt
  reasons := by
    rw [Reading.events_append, List.filterMap_append, List.filterMap_append, before.reasons,
      after.reasons]
  inOrder := by
    rw [List.flatMap_append]
    exact before.inOrder.append after.inOrder
  ends := List.forall_mem_append.mpr ⟨before.ends, after.ends⟩

/-- What stands in a group stands in the list around it. -/
theorem Pieced.asOptional {inner : Nat} (pieced : Pieced whole inner first reading pieces last)
    (bracket : (Span.mk inner (inner + 1)).text? whole = some "]") (stop : Nat) :
    Pieced whole stop first reading.asOptional pieces last where
  standAt := by
    rw [Reading.args_asOptional, List.forall₂_map_left_iff]
    exact pieced.standAt.imp fun arg place standsAt =>
      ⟨standsAt.name, standsAt.type, standsAt.default⟩
  reasons := pieced.reasons
  inOrder := pieced.inOrder
  ends := by
    intro piece inside
    have ends := pieced.ends piece inside
    cases piece with
    | argument place => trivial
    | givenUp why range =>
      obtain ⟨rest, shows, givenUp, listEnds⟩ := ends
      refine ⟨rest, shows, givenUp, .inr ?_⟩
      rcases listEnds with rfl | closed
      · exact bracket
      · exact closed

/-- A list that is given up at its start. -/
theorem pieced_abandoned (before after : List Char) (givenUp : GivenUp why rest) :
    Pieced (.ofList (before ++ (rest ++ after))) (utf8Length before + utf8Length rest)
      (utf8Length before) (.abandoned why) [.givenUp why (.of before rest)]
      (utf8Length before + utf8Length rest) where
  standAt := .nil
  reasons := rfl
  inOrder := by simpa [Piece.spans] using InOrder.of_part before [] [] givenUp.ne_nil
  ends := by
    intro piece inside
    rw [List.mem_singleton.mp inside]
    exact ⟨rest, Span.text?_of before rest after, givenUp, .inl rfl⟩

/-- An argument that is read is one piece. -/
theorem exists_pieced_single (standsIn : StandsIn arg taken) (before after : List Char)
    (stop : Nat) :
    ∃ piece, Pieced (.ofList (before ++ (taken ++ after))) stop (utf8Length before) (.single arg)
      [piece] (utf8Length before + utf8Length taken) := by
  obtain ⟨place, standsAt, inOrder⟩ := exists_placement_of_standsIn standsIn before after
  refine ⟨.argument place, .cons standsAt .nil, rfl, ?_, ?_⟩
  · simpa [Piece.spans] using inOrder
  · intro piece inside
    rw [List.mem_singleton.mp inside]
    trivial

/-- A group and the list behind it are in pieces together. -/
theorem Pieced.group {inner after before : List Char}
    (innerPieced : Pieced (.ofList (before ++ ['['] ++ (inner ++ ']' :: (rest ++ after))))
      (utf8Length (before ++ ['[']) + utf8Length inner) (utf8Length (before ++ ['['])) reading
      pieces (utf8Length (before ++ ['[']) + utf8Length inner))
    (restPieced : Pieced (.ofList (before ++ '[' :: (inner ++ [']']) ++ (rest ++ after))) stop
      (utf8Length (before ++ '[' :: (inner ++ [']']))) other more last) :
    Pieced (.ofList (before ++ '[' :: (inner ++ [']']) ++ (rest ++ after))) stop
      (utf8Length (before ++ ['['])) (reading.asOptional ++ other) (pieces ++ more) last := by
  have sameText : before ++ ['['] ++ (inner ++ ']' :: (rest ++ after)) =
      before ++ '[' :: (inner ++ [']']) ++ (rest ++ after) := by simp
  have bracket := Span.text?_of (before ++ ['['] ++ inner) [']'] (rest ++ after)
  have split : before ++ ['['] ++ inner ++ ([']'] ++ (rest ++ after)) =
      before ++ '[' :: (inner ++ [']']) ++ (rest ++ after) := by simp
  rw [split, Span.of, utf8Length_append] at bracket
  have le : utf8Length (before ++ ['[']) + utf8Length inner ≤
      utf8Length (before ++ '[' :: (inner ++ [']'])) := by
    simp only [utf8Length_append, utf8Length_cons, utf8Length_nil]
    omega
  rw [sameText] at innerPieced
  exact (innerPieced.asOptional bracket stop).append (restPieced.mono_left le)

/-- The arguments that are read of a list and what is given up in it stand in pieces
of the list, one behind the other. -/
theorem readList_pieced (depth : Nat) (previous : Option Argument) (body before after : List Char) :
    ∃ pieces, Pieced (.ofList (before ++ (body ++ after))) (utf8Length before + utf8Length body)
      (utf8Length before) (readList depth previous body) pieces
      (utf8Length before + utf8Length body) := by
  have takes := Turn.takes_nextTurn depth previous body
  have leaves := Turn.leaves_nextTurn depth previous body
  fun_induction readList depth previous body generalizing before after with
  | case1 depth previous body turn => exact ⟨[], .nil (Nat.le_add_right _ _)⟩
  | case2 depth previous body why turn =>
    rw [turn] at leaves
    obtain ⟨gap, rest, rfl, givenUp⟩ := leaves
    have pieced := pieced_abandoned (before ++ gap) after givenUp
    have le : utf8Length before ≤ utf8Length (before ++ gap) := by simp
    exact ⟨_, by simpa [Nat.add_assoc] using pieced.mono_left le⟩
  | case3 depth previous body rest turn ih =>
    rw [turn] at takes
    rcases takes with ⟨taken, rfl⟩
    obtain ⟨pieces, pieced⟩ := ih (before ++ taken) after (Turn.takes_nextTurn _ _ _)
      (Turn.leaves_nextTurn _ _ _)
    have le : utf8Length before ≤ utf8Length (before ++ taken) := by simp
    exact ⟨pieces, by simpa [Nat.add_assoc] using pieced.mono_left le⟩
  | case4 depth previous body inner rest turn group ihInner ihRest =>
    rw [turn] at takes
    rcases takes with ⟨gap, rfl⟩
    obtain ⟨innerPieces, innerPieced⟩ := ihInner (before ++ gap ++ ['[']) (']' :: (rest ++ after))
      (Turn.takes_nextTurn _ _ _) (Turn.leaves_nextTurn _ _ _)
    obtain ⟨restPieces, restPieced⟩ := ihRest (before ++ gap ++ '[' :: (inner ++ [']'])) after
      (Turn.takes_nextTurn _ _ _) (Turn.leaves_nextTurn _ _ _)
    have pieced := innerPieced.group restPieced
    have start : utf8Length before ≤ utf8Length (before ++ gap ++ ['[']) := by simp
    refine ⟨innerPieces ++ restPieces, ?_⟩
    simpa [Nat.add_assoc] using pieced.mono_left start
  | case5 depth previous body arg turn =>
    rw [turn] at takes
    rcases takes with ⟨taken, rfl, standsIn⟩
    obtain ⟨piece, pieced⟩ := exists_pieced_single standsIn before after
      (utf8Length before + utf8Length taken)
    exact ⟨[piece], by simpa [After.rest] using pieced⟩
  | case6 depth previous body arg why turn =>
    rw [turn] at leaves
    obtain ⟨taken, rest, rfl, standsIn, givenUp⟩ := leaves
    obtain ⟨piece, pieced⟩ := exists_pieced_single standsIn before (rest ++ after)
      (utf8Length before + utf8Length (taken ++ rest))
    have lost := pieced_abandoned (before ++ taken) after givenUp
    simp only [List.append_assoc, utf8Length_append, Nat.add_assoc] at pieced lost ⊢
    have both := pieced.append lost
    exact ⟨_, both.standAt, both.reasons, both.inOrder, both.ends⟩
  | case7 depth previous body arg rest turn ih =>
    rw [turn] at takes
    rcases takes with ⟨taken, rfl, standsIn⟩
    obtain ⟨piece, pieced⟩ := exists_pieced_single standsIn before (rest ++ after)
      (utf8Length before + utf8Length (taken ++ rest))
    obtain ⟨pieces, behind⟩ := ih (before ++ taken) after (Turn.takes_nextTurn _ _ _)
      (Turn.leaves_nextTurn _ _ _)
    refine ⟨piece :: pieces, ?_⟩
    simp only [After.rest, List.append_assoc, utf8Length_append, Nat.add_assoc] at pieced behind ⊢
    exact pieced.append behind

/-- Ranges of pieces that stand one behind the other are apart. -/
theorem Pieced.apart (pieced : Pieced whole stop first reading pieces last) :
    pieces.Pairwise Piece.Apart := by
  have ordered := (List.pairwise_flatMap.mp pieced.inOrder.pairwise).2
  exact ordered.imp fun before span inSpan range inRange => .inl (before span inSpan range inRange)

end Parse

/-- Whatever is given up in a signature, no text of an argument stands between its
start and the end of the list that it stands in. Arguments stand behind it only if
that list is an optional group, and then behind the bracket that closes the group. -/
theorem parseSignature_givenUp (text : String) :
    match matchingClose? text '(' ')' with
    | none => parseSignature text = .empty
    | some stop => ∃ pieces : List Piece,
        List.Forall₂ (fun arg place => arg.StandsAt text place) (parseArguments text)
          (pieces.filterMap Piece.place?) ∧
        (parseEvents text).filterMap Parse.Event.why? = pieces.filterMap Piece.why? ∧
        ∀ why range, .givenUp why range ∈ pieces →
          (∃ rest, range.text? text = some (.ofList rest) ∧ Parse.GivenUp why rest) ∧
          (range.stop = stop ∨ (Span.mk range.stop (range.stop + 1)).text? text = some "]") ∧
          ∀ place, .argument place ∈ pieces → ∀ span ∈ place.spans,
            span.stop ≤ range.start ∨ range.stop ≤ span.start ∧ range.stop < stop := by
  rw [matchingClose?]
  cases list : group? '(' ')' text.toList with
  | none =>
    simp only [Option.map_none, parseSignature, Parse.readSignature, list]
    split <;> rfl
  | some found =>
    rcases found with ⟨body, after⟩
    have whole := group?_eq_some list
    have openSize : utf8Length ['('] = 1 := rfl
    obtain ⟨pieces, pieced⟩ := Parse.readList_pieced 0 none body ['('] (')' :: after)
    have same : String.ofList (['('] ++ (body ++ ')' :: after)) = text := by
      rw [List.singleton_append, ← whole, String.ofList_toList]
    rw [same, openSize] at pieced
    simp only [Option.map_some, parseArguments, parseSignature, parseEvents, Parse.readSignature,
      list]
    refine ⟨pieces, pieced.standAt, pieced.reasons, ?_⟩
    intro why range lost
    obtain ⟨rest, shows, givenUp, listEnds⟩ := pieced.ends _ lost
    refine ⟨⟨rest, shows, givenUp⟩, listEnds, ?_⟩
    intro place read span inside
    obtain ⟨-, nonempty, inList⟩ :=
      pieced.inOrder.bounds span (List.mem_flatMap.mpr ⟨_, read, inside⟩)
    have apart := pieced.apart.forall read lost (by simp) span inside range
      (List.mem_singleton_self range)
    rcases apart with before | behind
    · exact .inl before
    · exact .inr ⟨behind, Nat.lt_of_le_of_lt behind (Nat.lt_of_lt_of_le nonempty inList)⟩

/-- Behind a group in which a name does not end, the list around it goes on. -/
theorem parseArguments_behind_givenUp :
    (parseEvents "(a[, b'c], d)").filterMap Parse.Event.why? = [.unclosedName "b'c"] ∧
      parseArguments "(a[, b'c], d)" = [.named "a", .named "d"] := by
  decide +kernel

end CallSig
