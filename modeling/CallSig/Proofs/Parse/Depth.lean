import Mathlib.Logic.Relation
import CallSig.Proofs.Bracket.WellNested
import CallSig.Proofs.Parse.Layout
import CallSig.Proofs.Parse.Placement

/-!
# How deep groups may stand in one another

A list is read in stages: each turn leads further in its list, into a group, or
behind one (`Leads`). The one turn that goes deeper is a group, and it is refused
where the most groups that may be are open already (`Leads.depth_le`). So no list is
read deeper than that, and no text stands in more groups that are read into
(`countP_expandedGroups_le`).

The limit is exact: an argument in as many groups of its own is read, and one group
more leaves nothing (`readList_wrapped`).
-/

namespace CallSig

open CallSig.Bracket CallSig.Octet CallSig.Text

namespace Parse

variable {depth : Nat} {previous : Option Argument} {body rest inner text : List Char}
  {arg : Argument}

/-! ## The stages of a reading -/

/-- Where a reading stands: in how many groups, behind which argument, and what is
left of the list. -/
structure Stage where
  depth : Nat
  previous : Option Argument
  rest : List Char

/-- One turn leads from a stage to the next one. -/
inductive Leads : Stage → Stage → Prop
  | skip {depth : Nat} {previous : Option Argument} {body rest : List Char} :
    nextTurn depth previous body = .skip rest →
    Leads ⟨depth, previous, body⟩ ⟨depth, previous, rest⟩
  | argument {depth : Nat} {previous : Option Argument} {body rest : List Char} {arg : Argument} :
    nextTurn depth previous body = .argument arg (.more rest) →
    Leads ⟨depth, previous, body⟩ ⟨depth, some arg, rest⟩
  | enter {depth : Nat} {previous : Option Argument} {body inner rest : List Char} :
    nextTurn depth previous body = .group inner rest →
    Leads ⟨depth, previous, body⟩ ⟨depth + 1, none, inner⟩
  | behind {depth : Nat} {previous : Option Argument} {body inner rest : List Char} :
    nextTurn depth previous body = .group inner rest →
    Leads ⟨depth, previous, body⟩
      ⟨depth, (readList (depth + 1) none inner).asOptional.args.getLast?.or previous, rest⟩

/-- The reading of the signature that a text starts with gets to the stage. -/
def Reached (text : String) (stage : Stage) : Prop :=
  ∃ body after, group? '(' ')' text.toList = some (body, after) ∧
    Relation.ReflTransGen Leads ⟨0, none, body⟩ stage

/-- The turn goes into no group, or there is room for one more. -/
def Turn.HasRoom (depth : Nat) : Turn → Prop
  | .group _ _ => depth < maxGroupDepth
  | _ => True

theorem Turn.TakesParts.hasRoom {name : String} {turn : Turn} (parts : turn.TakesParts name text) :
    turn.HasRoom depth := by
  rcases parts with ⟨type, default, after, typeText, defaultText, rfl, -⟩
  trivial

theorem readName_hasRoom (previous : Option Argument) (text : List Char) :
    (readName previous text).HasRoom depth := by
  unfold readName
  split
  · trivial
  · next taken after found =>
    split
    · unfold readNameless
      split <;> trivial
    · obtain ⟨name, same, -⟩ := namedArgument_eq previous (String.ofList (trim taken))
      rw [same]
      exact (readAfterName_takes name _ after).hasRoom

theorem readGroupedName_hasRoom (text : List Char) : (readGroupedName text).HasRoom depth := by
  unfold readGroupedName
  split
  · trivial
  · exact (readOptionalDefault_takes _ (PartIn.none []) _).hasRoom

/-- A turn goes into a group only where there is room for one more. -/
theorem Turn.hasRoom_nextTurn (depth : Nat) (previous : Option Argument) (body : List Char) :
    (nextTurn depth previous body).HasRoom depth := by
  unfold nextTurn
  split
  · trivial
  · unfold readGroup
    split
    · trivial
    · next room =>
      split
      · trivial
      · exact Nat.lt_of_not_le room
  · exact readGroupedName_hasRoom _
  · exact readName_hasRoom previous _

/-- A group that is read stands in fewer groups than may stand in one another. -/
theorem depth_lt_of_group (turn : nextTurn depth previous body = .group inner rest) :
    depth < maxGroupDepth := by
  have room := Turn.hasRoom_nextTurn depth previous body
  rwa [turn] at room

/-- No turn leads deeper than groups may stand in one another. -/
theorem Leads.depth_le {stage next : Stage} (leads : Leads stage next)
    (le : stage.depth ≤ maxGroupDepth) : next.depth ≤ maxGroupDepth := by
  cases leads with
  | skip turn => exact le
  | argument turn => exact le
  | enter turn => exact depth_lt_of_group turn
  | behind turn => exact le

/-- No stage of a reading is deeper than groups may stand in one another. -/
theorem depth_le_of_reached {text : String} {stage : Stage} (reached : Reached text stage) :
    stage.depth ≤ maxGroupDepth := by
  obtain ⟨body, after, -, run⟩ := reached
  induction run with
  | refl => exact Nat.zero_le _
  | tail _ leads ih => exact leads.depth_le ih

/-! ## Every argument is read at a stage -/

theorem Leads.le_depth {stage next : Stage} (leads : Leads stage next) :
    stage.depth ≤ next.depth := by
  cases leads with
  | enter turn => exact Nat.le_succ _
  | _ => exact Nat.le_refl _

theorem le_depth_of_run {stage last : Stage} (run : Relation.ReflTransGen Leads stage last) :
    stage.depth ≤ last.depth := by
  induction run with
  | refl => exact Nat.le_refl _
  | tail _ leads ih => exact Nat.le_trans ih leads.le_depth

/-- The argument is read at a stage that the reading gets to from this one, and is
optional if that one stands in more groups. -/
def ReadFrom (stage : Stage) (arg : Argument) : Prop :=
  ∃ last bare after, Relation.ReflTransGen Leads stage last ∧
    nextTurn last.depth last.previous last.rest = .argument bare after ∧
    arg = { bare with optional := decide (stage.depth < last.depth) }

theorem ReadFrom.of_turn {after : After}
    (turn : nextTurn depth previous body = .argument arg after) :
    ReadFrom ⟨depth, previous, body⟩ arg := by
  refine ⟨_, arg, after, .refl, turn, ?_⟩
  have required := required_of_nextTurn turn
  rcases arg with ⟨name, type, default, optional⟩
  simpa using required

/-- What is read from a stage of the same depth is read from the stage before it. -/
theorem ReadFrom.head {stage next : Stage} (read : ReadFrom next arg) (leads : Leads stage next)
    (same : stage.depth = next.depth) : ReadFrom stage arg := by
  obtain ⟨last, bare, after, run, turn, rfl⟩ := read
  exact ⟨last, bare, after, .head leads run, turn, by rw [same]⟩

/-- What is read from the inside of a group is read as optional from the stage before. -/
theorem ReadFrom.asOptional {stage next : Stage} (read : ReadFrom next arg)
    (leads : Leads stage next) (deeper : stage.depth < next.depth) :
    ReadFrom stage arg.asOptional := by
  obtain ⟨last, bare, after, run, turn, rfl⟩ := read
  have inGroup : stage.depth < last.depth := Nat.lt_of_lt_of_le deeper (le_depth_of_run run)
  refine ⟨last, bare, after, .head leads run, turn, ?_⟩
  simp [Argument.asOptional, inGroup]

/-- Every argument of a list is read at a stage that the reading gets to. -/
theorem readFrom_of_mem_readList (depth : Nat) (previous : Option Argument) (body : List Char) :
    ∀ arg ∈ (readList depth previous body).args, ReadFrom ⟨depth, previous, body⟩ arg := by
  fun_induction readList depth previous body with
  | case1 depth previous body turn => exact List.forall_mem_nil _
  | case2 depth previous body why turn => exact List.forall_mem_nil _
  | case3 depth previous body rest turn ih =>
    exact fun arg inside => (ih arg inside).head (.skip turn) rfl
  | case4 depth previous body inner rest turn group ihInner ihRest =>
    intro arg inside
    rw [Reading.args_append, List.mem_append, Reading.args_asOptional, List.mem_map] at inside
    rcases inside with ⟨arg, inGroup, rfl⟩ | inRest
    · exact (ihInner arg inGroup).asOptional (.enter turn) (Nat.lt_succ_self _)
    · exact (ihRest arg inRest).head (.behind turn) rfl
  | case5 depth previous body arg turn =>
    intro other inside
    cases List.mem_singleton.mp inside
    exact .of_turn turn
  | case6 depth previous body arg why turn =>
    intro other inside
    cases List.mem_singleton.mp inside
    exact .of_turn turn
  | case7 depth previous body arg rest turn ih =>
    intro other inside
    rcases List.mem_cons.mp inside with rfl | later
    · exact .of_turn turn
    · exact (ih other later).head (.argument turn) rfl

/-! ## The groups around a text -/

/-- The groups of a list stand in the list. -/
theorem expandedGroups_bounds (depth : Nat) (previous : Option Argument)
    (body before : List Char) :
    ∀ group ∈ expandedGroups depth previous (utf8Length before + utf8Length body) body,
      utf8Length before ≤ group.start ∧ group.stop ≤ utf8Length before + utf8Length body := by
  obtain ⟨places, placed⟩ := readList_placed depth previous body before []
  exact fun group inside => ⟨(placed.groups group inside).1, (placed.groups group inside).2.1⟩

/-- A text stands in a group, and then in none behind it, or in no group inside of
it. -/
theorem countP_within_le {span own : Span} {inners others : List Span} {room : Nat}
    (nonempty : span.start < span.stop)
    (inside : ∀ group ∈ inners, own.start ≤ group.start ∧ group.stop ≤ own.stop)
    (behind : ∀ group ∈ others, own.stop ≤ group.start)
    (innerBound : inners.countP (fun group => span.Within group) ≤ room)
    (otherBound : others.countP (fun group => span.Within group) ≤ room + 1) :
    (own :: inners ++ others).countP (fun group => span.Within group) ≤ room + 1 := by
  rw [List.countP_append, List.countP_cons]
  by_cases within : span.Within own
  · have none : others.countP (fun group => span.Within group) = 0 := by
      refine List.countP_eq_zero.mpr fun group member => ?_
      have start := behind group member
      rw [decide_eq_true_eq]
      intro both
      have stop := within.2
      have first := both.1
      omega
    rw [if_pos (decide_eq_true within), none]
    omega
  · have none : inners.countP (fun group => span.Within group) = 0 := by
      refine List.countP_eq_zero.mpr fun group member => ?_
      have bounds := inside group member
      rw [decide_eq_true_eq]
      intro both
      exact within ⟨Nat.le_trans bounds.1 both.1, Nat.le_trans both.2 bounds.2⟩
    rw [if_neg (by simpa using within), none]
    omega

/-- A text that is not empty stands in no more groups than may stand in one
another. -/
theorem countP_expandedGroups_le {span : Span} (nonempty : span.start < span.stop) (depth : Nat)
    (previous : Option Argument) (body before : List Char) :
    (expandedGroups depth previous (utf8Length before + utf8Length body) body).countP
      (fun group => span.Within group) ≤ maxGroupDepth - depth := by
  have takes := Turn.takes_nextTurn depth previous body
  fun_induction readList depth previous body generalizing before with
  | case1 depth previous body turn => rw [expandedGroups_eq, turn]; exact Nat.zero_le _
  | case2 depth previous body why turn => rw [expandedGroups_eq, turn]; exact Nat.zero_le _
  | case3 depth previous body rest turn ih =>
    rw [turn] at takes
    rcases takes with ⟨taken, rfl⟩
    have bound := ih (before ++ taken) (Turn.takes_nextTurn _ _ _)
    rw [expandedGroups_eq, turn]
    simpa [Nat.add_assoc] using bound
  | case4 depth previous body inner rest turn group ihInner ihRest =>
    rw [turn] at takes
    rcases takes with ⟨gap, rfl⟩
    -- The turn leaves room for one group more, and this one is counted with its inner ones.
    have room := depth_lt_of_group turn
    have innerBound := ihInner (before ++ gap ++ ['[']) (Turn.takes_nextTurn _ _ _)
    have restBound := ihRest (before ++ gap ++ '[' :: (inner ++ [']'])) (Turn.takes_nextTurn _ _ _)
    have sameStop : utf8Length before + utf8Length (gap ++ '[' :: (inner ++ ']' :: rest)) =
        utf8Length (before ++ gap ++ '[' :: (inner ++ [']'])) + utf8Length rest := by
      simp [Nat.add_assoc]
    have sameRoom : maxGroupDepth - depth = maxGroupDepth - (depth + 1) + 1 := by omega
    rw [sameStop, expandedGroups_group turn (before ++ gap)]
    rw [sameRoom] at restBound ⊢
    refine countP_within_le nonempty (fun other member => ?_) (fun other member => ?_) innerBound
      restBound
    · have bounds := expandedGroups_bounds _ _ inner _ other member
      simp only [Span.of, utf8Length_append, utf8Length_cons, utf8Length_nil] at bounds ⊢
      omega
    · have bounds := expandedGroups_bounds _ _ rest _ other member
      simp only [Span.of, utf8Length_append, utf8Length_cons, utf8Length_nil] at bounds ⊢
      omega
  | case5 depth previous body arg turn => rw [expandedGroups_eq, turn]; exact Nat.zero_le _
  | case6 depth previous body arg why turn => rw [expandedGroups_eq, turn]; exact Nat.zero_le _
  | case7 depth previous body arg rest turn ih =>
    rw [turn] at takes
    rcases takes with ⟨taken, rfl, -⟩
    have bound := ih (before ++ taken) (Turn.takes_nextTurn _ _ _)
    rw [expandedGroups_eq, turn]
    simpa [After.rest, Nat.add_assoc] using bound

/-! ## An argument in groups of its own -/

/-- The text in as many brackets of its own. -/
def wrapped (text : List Char) : Nat → List Char
  | 0 => text
  | count + 1 => '[' :: (wrapped text count ++ [']'])

/-- A text in brackets of its own is the text with as many openers in front as closers
behind. -/
theorem wrapped_eq (text : List Char) (count : Nat) :
    wrapped text count = List.replicate count '[' ++ text ++ List.replicate count ']' := by
  induction count with
  | zero => simp [wrapped]
  | succ count ih =>
    rw [wrapped, ih, List.replicate_succ, List.replicate_succ']
    simp

theorem neutral_wrapped {opener closer : Char} (pair : StructuralPair opener closer)
    (neutral : Neutral opener closer text) (count : Nat) :
    Neutral opener closer (wrapped text count) := by
  induction count with
  | zero => exact neutral
  | succ count ih => exact pair.neutral_bracket (rfl : closer? '[' = some ']') ih

/-- An argument is read in as many groups of its own as there is room for. With one
group more nothing is read. -/
theorem readList_wrapped (neutral : Neutral '[' ']' text)
    (alone : ∀ depth previous, (readList depth previous text).args = [arg]) (count : Nat)
    (le : depth ≤ maxGroupDepth) (previous : Option Argument) :
    (readList depth previous (wrapped text count)).args =
      if depth + count ≤ maxGroupDepth then [if count = 0 then arg else arg.asOptional]
      else [] := by
  induction count generalizing depth previous with
  | zero => rw [wrapped, alone, if_pos (by omega), if_pos rfl]
  | succ count ih =>
    rcases Nat.lt_or_eq_of_le le with room | full
    · have bracket : StructuralPair '[' ']' := .inr ⟨rfl, rfl⟩
      have closed := neutral_wrapped bracket neutral count
      obtain ⟨last, group⟩ := readList_group closed room previous []
      have inside := ih (by omega : depth + 1 ≤ maxGroupDepth) none
      have nothing := readList_of_isSeparator (List.forall_mem_nil _) depth last
      have sameDepth : depth + 1 + count = depth + (count + 1) := by omega
      rw [sameDepth] at inside
      rw [wrapped, group, nothing, Reading.args_append, Reading.args_asOptional, inside]
      split
      · cases count <;> rfl
      · rfl
    · have turn : nextTurn depth previous (wrapped text (count + 1)) =
          .abandoned .groupsTooDeep := by
        have notSeparator : isSeparator '[' = false := rfl
        rw [wrapped, nextTurn, List.dropWhile_cons_of_neg (by simp [notSeparator])]
        simp only [readGroup, full, Nat.le_refl, if_true]
      rw [readList_eq, turn, if_neg (by omega)]
      rfl

/-- A default value that is one bracket of well-nested text. -/
inductive IsBracketed : List Char → Prop
  | bracket {opener closer : Char} {inner : List Char} : opensValue opener = true →
    closer? opener = some closer → WellNested inner → IsBracketed (opener :: (inner ++ [closer]))

theorem ne_angle_of_opensValue {c : Char} (opens : opensValue c = true) : c ≠ '<' := by
  rintro rfl
  cases opens

theorem IsBracketed.takenWhole (bracketed : IsBracketed text) : TakenWhole text := by
  rcases bracketed with @⟨opener, closer, inner, opens, closes, nested⟩
  refine ⟨by simp, trimmed_bracket closes inner, fun {gap rest} blank _ => ⟨rest, ?_, rfl⟩⟩
  have start : trimStart (opener :: (inner ++ closer :: rest)) = _ :=
    trimStart_eq_self (isBlank_of_closer? closes).1
  have whole : leadingBracket? (opener :: (inner ++ closer :: rest)) =
      some (opener :: inner ++ [closer], rest) := by
    rw [leadingBracket?, if_pos opens]
    exact nested.skipGroup? closes (ne_angle_of_opensValue opens) rest
  simp [splitDefault?, trimStart_append_of_blank blank, start, whole]

theorem IsBracketed.neutral {opener closer : Char} (bracketed : IsBracketed text)
    (pair : StructuralPair opener closer) : Neutral opener closer text := by
  rcases bracketed with ⟨-, closes, nested⟩
  exact pair.neutral_bracket closes (nested.neutral pair)

/-- A plain name, with a bracket as its default value if it has one. -/
structure Simple (arg : Argument) : Prop where
  name : PlainName arg.name.toList
  default : ∀ value, arg.defaultExpr = some value → IsBracketed value.toList
  noType : arg.typeExpr = none
  required : arg.optional = false

theorem Simple.neutral {opener closer : Char} (simple : Simple arg) (writes : Writes arg text)
    (pair : StructuralPair opener closer) : Neutral opener closer text :=
  writes.neutral_of_parts pair (simple.name.neutral pair) (by simp [simple.noType])
    fun value same => (simple.default value same).neutral pair

/-- A list of one such argument is read as that argument. -/
theorem Simple.readList (simple : Simple arg) (writes : Writes arg text) (depth : Nat)
    (previous : Option Argument) : (Parse.readList depth previous text).args = [arg] := by
  rcases arg with ⟨name, type, default, optional⟩
  cases simple.noType
  cases simple.required
  have takenWhole := fun value same => (simple.default value same).takenWhole
  have noType : ∀ text : String, none = some text → IsType text.toList := nofun
  have reads := nextTurn_named simple.name noType takenWhole writes (.nil _) depth previous
  rw [List.append_nil] at reads
  rw [reads.readList_eq, readList_of_isSeparator (List.forall_mem_nil _)]
  rfl

end Parse

/-! ## Signatures -/

open Parse

theorem exists_placed (text : String) : ∃ places stop,
    Placed text (parseGroups text) 1 (parseArguments text) places stop := by
  rcases parseArguments_cases text with ⟨noArgs, noGroups⟩ | ⟨body, after, -, whole, args, groups⟩
  · rw [noArgs, noGroups]
    exact ⟨[], 1, .nil (Nat.le_refl 1)⟩
  · obtain ⟨places, placed⟩ := readList_placed 0 none body ['('] (')' :: after)
    rw [← whole] at placed
    rw [args, groups]
    exact ⟨places, _, placed⟩

/-- Every argument of a signature is read at a stage of its reading, and is optional if
the stage stands in a group. -/
theorem exists_stage_of_mem_parseArguments (text : String) :
    ∀ arg ∈ parseArguments text, ∃ stage bare after, Reached text stage ∧
      nextTurn stage.depth stage.previous stage.rest = .argument bare after ∧
      arg = { bare with optional := decide (0 < stage.depth) } := by
  intro arg inside
  rcases parseArguments_cases text with ⟨noArgs, -⟩ | ⟨body, behind, list, -, args, -⟩
  · rw [noArgs] at inside
    cases inside
  · rw [args] at inside
    obtain ⟨stage, bare, after, run, turn, same⟩ := readFrom_of_mem_readList 0 none body arg inside
    exact ⟨stage, bare, after, ⟨body, behind, list, run⟩, turn, same⟩

/-- A text that is not empty stands in no more groups of a signature than may stand in
one another. -/
theorem countP_parseGroups_le {span : Span} (nonempty : span.start < span.stop) (text : String) :
    (parseGroups text).countP (fun group => span.Within group) ≤ maxGroupDepth := by
  rcases parseArguments_cases text with ⟨-, noGroups⟩ | ⟨body, -, -, -, -, groups⟩
  · rw [noGroups]
    exact Nat.zero_le _
  · rw [groups]
    exact countP_expandedGroups_le nonempty 0 none body ['(']

/-- An argument in groups of its own is read if there are no more of them than may be. -/
theorem parseArguments_wrapped {arg : Argument} {text : String} (simple : Simple arg)
    (writes : Writes arg text.toList) (count : Nat) :
    parseArguments ("(" ++ .ofList (.replicate count '[') ++ text ++
        .ofList (.replicate count ']') ++ ")") =
      if count ≤ maxGroupDepth then [{ arg with optional := decide (0 < count) }] else [] := by
  have chars : ("(" ++ .ofList (.replicate count '[') ++ text ++
      .ofList (.replicate count ']') ++ ")" : String).toList =
      '(' :: (wrapped text.toList count ++ [')']) := by
    simp [wrapped_eq]
  have round : StructuralPair '(' ')' := .inl ⟨rfl, rfl⟩
  have square : StructuralPair '[' ']' := .inr ⟨rfl, rfl⟩
  have closed := (neutral_wrapped round (simple.neutral writes round) count).splitClose?
    (by decide) []
  have list : group? '(' ')' ('(' :: (wrapped text.toList count ++ [')'])) =
      some (wrapped text.toList count, []) := by
    rw [group?, if_pos rfl, closed]
  have reads := readList_wrapped (simple.neutral writes square) (simple.readList writes) count
    (Nat.zero_le _) none
  simp only [parseArguments, parseSignature, Parse.readSignature, chars, list, reads, Nat.zero_add]
  have required : { arg with optional := false } = arg := by rw [← simple.required]
  cases count with
  | zero => rw [if_pos rfl, decide_eq_false (Nat.lt_irrefl 0), required]
  | succ count => rw [if_neg (Nat.succ_ne_zero count), decide_eq_true (Nat.succ_pos count)]; rfl

/-- Groups stand in one another to an exact limit. No list is read deeper, every
argument is read at a stage within it, and the name of none stands in more groups that
are read into. An argument in groups of its own is read up to the limit, and one group
more leaves nothing. -/
theorem parseArguments_groupLimit :
    (∀ text,
      (∀ stage, Reached text stage → stage.depth ≤ 64) ∧
      (∀ arg ∈ parseArguments text, ∃ stage bare after, Reached text stage ∧
        nextTurn stage.depth stage.previous stage.rest = .argument bare after ∧
        arg = { bare with optional := decide (0 < stage.depth) }) ∧
      ∃ places stop, Placed text (parseGroups text) 1 (parseArguments text) places stop ∧
        ∀ place ∈ places,
          (parseGroups text).countP (fun group => place.name.Within group) ≤ 64) ∧
    ∀ (count : Nat) (arg : Argument) (text : String), Simple arg → Writes arg text.toList →
      parseArguments ("(" ++ .ofList (.replicate count '[') ++ text ++
          .ofList (.replicate count ']') ++ ")") =
        if count ≤ 64 then [{ arg with optional := decide (1 ≤ count) }] else [] := by
  refine ⟨fun text => ⟨fun _ => depth_le_of_reached, exists_stage_of_mem_parseArguments text, ?_⟩,
    fun count arg text simple writes => parseArguments_wrapped simple writes count⟩
  obtain ⟨places, stop, placed⟩ := exists_placed text
  refine ⟨places, stop, placed, fun place inside => ?_⟩
  exact countP_parseGroups_le (placed.name_bounds place inside).2.1 text

/-- A list that holds a dictionary, in as many groups as may be and in one more. -/
theorem parseArguments_groupLimit_list :
    Simple ⟨"a", none, some "[1, {b > (c)}]", false⟩ ∧
    Writes ⟨"a", none, some "[1, {b > (c)}]", false⟩ "a=[1, {b > (c)}]".toList ∧
    parseArguments ("(" ++ .ofList (.replicate 64 '[') ++ "a=[1, {b > (c)}]" ++
      .ofList (.replicate 64 ']') ++ ")") = [⟨"a", none, some "[1, {b > (c)}]", true⟩] ∧
    parseArguments ("(" ++ .ofList (.replicate 65 '[') ++ "a=[1, {b > (c)}]" ++
      .ofList (.replicate 65 ']') ++ ")") = [] := by
  have trimmed : Trimmed "a".toList := by
    rw [← trim_eq_self_iff]
    decide
  have nested : WellNested "1, {b > (c)}".toList :=
    .char rfl rfl (by decide) (.char rfl rfl (by decide) (.char rfl rfl (by decide)
      (@WellNested.group '{' '}' "b > (c)".toList [] rfl (by decide)
        (.char rfl rfl (by decide) (.char rfl rfl (by decide) (.char rfl rfl (by decide)
          (.char rfl rfl (by decide) (@WellNested.group '(' ')' ['c'] [] rfl (by decide)
            (.char rfl rfl (by decide) .nil) .nil))))) .nil)))
  have bracketed : IsBracketed "[1, {b > (c)}]".toList :=
    @IsBracketed.bracket '[' ']' "1, {b > (c)}".toList rfl rfl nested
  have simple : Simple ⟨"a", none, some "[1, {b > (c)}]", false⟩ :=
    ⟨⟨by decide, trimmed, List.all_iff_forall_prop.mp (by decide), by decide⟩,
      (by rintro _ ⟨⟩; exact bracketed), rfl, rfl⟩
  have noBlank : Blank [] := List.forall_mem_nil _
  have writes : Writes ⟨"a", none, some "[1, {b > (c)}]", false⟩ "a=[1, {b > (c)}]".toList :=
    @Writes.parts ⟨"a", none, some "[1, {b > (c)}]", false⟩ [] "=[1, {b > (c)}]".toList .absent
      (@Part.present '=' [] [] "[1, {b > (c)}]" noBlank noBlank)
  have inGroups := parseArguments_groupLimit.2
  exact ⟨simple, writes, inGroups 64 _ _ simple writes, inGroups 65 _ _ simple writes⟩

end CallSig
