import Mathlib.Data.List.Forall2
import CallSig.Proofs.Bracket.Matching
import CallSig.Proofs.Octet.Span
import CallSig.Proofs.Parse.Taken

/-!
# Where the arguments stand in a text

Every text of an argument is a range of the text that is read. A `Placement`
gives the ranges of one argument, and `expandedGroups` the ranges of the optional
groups that are read into. `parseSignature_placed` says that the arguments of a
signature have ranges that are not empty, inside its parentheses, and one behind
the other in the order of the arguments, and that an argument is optional when
its name stands in a group that is read into.

Places are counts of octets. The end of what is left of a list is the end of the
list, so `expandedGroups` counts from there.
-/

namespace CallSig

open CallSig.Bracket CallSig.Octet

/-- The ranges of an argument. -/
structure Placement where
  name : Span
  type : Option Span
  default : Option Span
  deriving Repr, DecidableEq

def Placement.spans (place : Placement) : List Span :=
  place.name :: (place.type.toList ++ place.default.toList)

/-- The texts of the argument are the texts in its ranges; the name of a
catch-all may stand on an ellipsis. -/
structure Argument.StandsAt (arg : Argument) (text : String) (place : Placement) : Prop where
  name : place.name.text? text = some arg.name ∨
    place.name.text? text = some "..." ∧ (arg.name = "**args" ∨ arg.name = "**kwargs")
  type : place.type.map (·.text? text) = arg.typeExpr.map some
  default : place.default.map (·.text? text) = arg.defaultExpr.map some

namespace Parse

/-- The ranges of the optional groups that are read into when a list is read
that ends at the place `stop`. -/
def expandedGroups (depth : Nat) (previous : Option Argument) (stop : Nat) (body : List Char) :
    List Span :=
  match _turn : nextTurn depth previous body with
  | .skip rest => expandedGroups depth previous stop rest
  | .group inner rest =>
    let close := stop - utf8Length rest
    let group := (readList (depth + 1) none inner).asOptional
    ⟨close - utf8Length inner - 2, close⟩ :: expandedGroups (depth + 1) none (close - 1) inner ++
      expandedGroups depth (group.args.getLast?.or previous) stop rest
  | .argument arg (.more rest) => expandedGroups depth (some arg) stop rest
  | _ => []
termination_by body.length
decreasing_by
  all_goals
    have below := Turn.below_nextTurn depth previous body
    rw [_turn] at below
    first
      | exact below
      | exact below.1
      | exact below.2

theorem expandedGroups_eq (depth : Nat) (previous : Option Argument) (stop : Nat)
    (body : List Char) :
    expandedGroups depth previous stop body =
      match nextTurn depth previous body with
      | .skip rest => expandedGroups depth previous stop rest
      | .group inner rest =>
        let close := stop - utf8Length rest
        let group := (readList (depth + 1) none inner).asOptional
        ⟨close - utf8Length inner - 2, close⟩ ::
          expandedGroups (depth + 1) none (close - 1) inner ++
            expandedGroups depth (group.args.getLast?.or previous) stop rest
      | .argument arg (.more rest) => expandedGroups depth (some arg) stop rest
      | _ => [] := by
  rw [expandedGroups]
  split
  · next turn => simp only [turn]
  · next turn => simp only [turn]
  · next turn => simp only [turn]
  · next noSkip noGroup noMore =>
    split
    · next turn => exact absurd turn (noSkip _)
    · next turn => exact absurd turn (noGroup _ _)
    · next turn => exact absurd turn (noMore _ _)
    · rfl

/-! ## The ranges of one argument -/

variable {text taken before after : List Char}

/-- A part of an argument that stands in a text has a range there. -/
theorem exists_span_of_partIn {part : Option String} (inText : PartIn part text)
    (before after : List Char) :
    ∃ span : Option Span,
      span.map (·.text? (.ofList (before ++ (text ++ after)))) = part.map some ∧
      InOrder (utf8Length before) span.toList (utf8Length before + utf8Length text) := by
  cases part with
  | none => exact ⟨none, rfl, Nat.le_add_right _ _⟩
  | some value =>
    obtain ⟨nonempty, front, back, rfl⟩ := inText value rfl
    refine ⟨some (.of (before ++ front) value.toList), ?_, .of_part before front back nonempty⟩
    have found := Span.text?_of (before ++ front) value.toList (back ++ after)
    simpa using found

/-- The texts of an argument have their ranges one behind the other. -/
theorem exists_placement_of_standsIn {arg : Argument} (standsIn : StandsIn arg taken)
    (before after : List Char) :
    ∃ place, arg.StandsAt (.ofList (before ++ (taken ++ after))) place ∧
      InOrder (utf8Length before) place.spans (utf8Length before + utf8Length taken) := by
  obtain @⟨name, type, default, gap, written, typeText, defaultText, writtenAs, nonempty, inType,
    inDefault⟩ := standsIn
  obtain ⟨typeSpan, typeAt, typeOrder⟩ :=
    exists_span_of_partIn inType (before ++ gap ++ written) (defaultText ++ after)
  obtain ⟨defaultSpan, defaultAt, defaultOrder⟩ :=
    exists_span_of_partIn inDefault (before ++ gap ++ written ++ typeText) after
  have nameAt := Span.text?_of (before ++ gap) written (typeText ++ (defaultText ++ after))
  have nameOrder := InOrder.of_part before gap [] nonempty
  refine ⟨⟨.of (before ++ gap) written, typeSpan, defaultSpan⟩, ⟨?_, ?_, ?_⟩, ?_⟩
  · rcases writtenAs with rfl | ⟨rfl, either⟩
    · exact .inl (by simpa using nameAt)
    · exact .inr ⟨by simpa using nameAt, either⟩
  · simpa using typeAt
  · simpa using defaultAt
  · simp only [utf8Length_append, List.append_nil, Nat.add_assoc]
      at nameOrder typeOrder defaultOrder ⊢
    exact nameOrder.append (typeOrder.append defaultOrder)

/-! ## The ranges of a list -/

/-- The arguments have these ranges between two places, and the groups there
hold the names of the optional ones. -/
structure Placed (text : String) (groups : List Span) (first : Nat) (args : List Argument)
    (places : List Placement) (last : Nat) : Prop where
  standAt : List.Forall₂ (fun arg place => arg.StandsAt text place ∧
    (arg.optional = true ↔ ∃ group ∈ groups, place.name.Within group)) args places
  inOrder : InOrder first (places.flatMap (·.spans)) last
  groups : ∀ group ∈ groups, first ≤ group.start ∧ group.stop ≤ last ∧
    ∃ inner, group.text? text = some ("[" ++ inner ++ "]")

variable {whole : String} {groups others : List Span} {first middle last : Nat}
  {args more : List Argument} {places behind : List Placement}

theorem Placed.nil (le : first ≤ last) : Placed whole [] first [] [] last where
  standAt := .nil
  inOrder := le
  groups := fun _ inside => nomatch inside

theorem Placed.mono_left {lower : Nat} (placed : Placed whole groups first args places last)
    (le : lower ≤ first) : Placed whole groups lower args places last where
  standAt := placed.standAt
  inOrder := placed.inOrder.mono_left le
  groups := fun group inside =>
    have bounds := placed.groups group inside
    ⟨Nat.le_trans le bounds.1, bounds.2⟩

/-- The names of placed arguments stand between the two places. -/
theorem Placed.name_bounds (placed : Placed whole groups first args places last) :
    ∀ place ∈ places, first ≤ place.name.start ∧ place.name.start < place.name.stop ∧
      place.name.stop ≤ last := by
  intro place inside
  refine placed.inOrder.bounds place.name (List.mem_flatMap.mpr ⟨place, inside, ?_⟩)
  exact List.mem_cons_self

/-- Groups that no name stands in may be added. -/
theorem standAt_congr {spans : List Span}
    (standAt : List.Forall₂ (fun arg place => arg.StandsAt whole place ∧
      (arg.optional = true ↔ ∃ group ∈ groups, place.name.Within group)) args places)
    (same : ∀ place ∈ places,
      (∃ group ∈ groups, place.name.Within group) ↔ ∃ group ∈ spans, place.name.Within group) :
    List.Forall₂ (fun arg place => arg.StandsAt whole place ∧
      (arg.optional = true ↔ ∃ group ∈ spans, place.name.Within group)) args places := by
  induction standAt with
  | nil => exact .nil
  | cons head _ ih =>
    rw [List.forall_mem_cons] at same
    exact .cons ⟨head.1, head.2.trans same.1⟩ (ih same.2)

/-- Lists that stand one behind the other are placed together. -/
theorem Placed.append (before : Placed whole groups first args places middle)
    (after : Placed whole others middle more behind last) :
    Placed whole (groups ++ others) first (args ++ more) (places ++ behind) last where
  standAt := by
    refine List.rel_append (standAt_congr before.standAt fun place inside => ?_)
      (standAt_congr after.standAt fun place inside => ?_)
    · have name := before.name_bounds place inside
      refine ⟨fun ⟨group, member, within⟩ => ⟨group, List.mem_append_left _ member, within⟩, ?_⟩
      intro both
      rcases both with ⟨group, member, within⟩
      rcases List.mem_append.mp member with here | there
      · exact ⟨group, here, within⟩
      · have bounds := after.groups group there
        rcases within with ⟨start, stop⟩
        omega
    · have name := after.name_bounds place inside
      refine ⟨fun ⟨group, member, within⟩ => ⟨group, List.mem_append_right _ member, within⟩, ?_⟩
      intro both
      rcases both with ⟨group, member, within⟩
      rcases List.mem_append.mp member with there | here
      · have bounds := before.groups group there
        rcases within with ⟨start, stop⟩
        omega
      · exact ⟨group, here, within⟩
  inOrder := by
    rw [List.flatMap_append]
    exact before.inOrder.append after.inOrder
  groups := by
    intro group member
    rcases List.mem_append.mp member with here | there
    · have bounds := before.groups group here
      have le := after.inOrder.le
      exact ⟨bounds.1, Nat.le_trans bounds.2.1 le, bounds.2.2⟩
    · have bounds := after.groups group there
      have le := before.inOrder.le
      exact ⟨Nat.le_trans le bounds.1, bounds.2⟩

/-- The arguments of a group are optional, and their names stand in it. -/
theorem Placed.asOptional {group : Span} (placed : Placed whole groups first args places last)
    (opens : group.start ≤ first) (closes : last ≤ group.stop)
    (bracket : ∃ inner, group.text? whole = some ("[" ++ inner ++ "]")) :
    Placed whole (group :: groups) group.start (args.map (·.asOptional)) places group.stop where
  standAt := by
    have bounds := placed.name_bounds
    have standAt := placed.standAt
    clear placed
    induction standAt with
    | nil => exact .nil
    | @cons arg place _ _ head _ ih =>
      obtain ⟨here, later⟩ := List.forall_mem_cons.mp bounds
      refine .cons ⟨⟨head.1.name, head.1.type, head.1.default⟩, ?_⟩ (ih later)
      have within : place.name.Within group := ⟨by omega, by omega⟩
      exact iff_of_true rfl ⟨group, List.mem_cons_self, within⟩
  inOrder := (placed.inOrder.mono_left opens).mono_right closes
  groups := by
    have order := placed.inOrder.le
    refine List.forall_mem_cons.mpr
      ⟨⟨Nat.le_refl _, Nat.le_refl _, bracket⟩, fun other inside => ?_⟩
    have bounds := placed.groups other inside
    exact ⟨by omega, by omega, bounds.2.2⟩

/-- An argument whose texts stand in a text is placed there. -/
theorem exists_placed_of_standsIn {arg : Argument} (standsIn : StandsIn arg taken)
    (before after : List Char) :
    ∃ place, Placed (.ofList (before ++ (taken ++ after))) [] (utf8Length before) [arg] [place]
      (utf8Length before + utf8Length taken) := by
  obtain ⟨place, standsAt, inOrder⟩ := exists_placement_of_standsIn standsIn before after
  refine ⟨place, .cons ⟨standsAt, by simp [standsIn.required]⟩ .nil, ?_,
    fun _ inside => nomatch inside⟩
  rwa [List.flatMap_singleton]

theorem ofList_bracket (inner : List Char) :
    String.ofList ('[' :: (inner ++ [']'])) = "[" ++ String.ofList inner ++ "]" := by
  rw [← String.toList_inj]
  simp

/-- A group counts from its `[` to its `]`. -/
theorem expandedGroups_group {depth : Nat} {previous : Option Argument}
    {body inner rest : List Char} (turn : nextTurn depth previous body = .group inner rest)
    (before : List Char) :
    expandedGroups depth previous (utf8Length (before ++ '[' :: (inner ++ [']'])) + utf8Length rest)
        body =
      .of before ('[' :: (inner ++ [']'])) ::
        expandedGroups (depth + 1) none (utf8Length (before ++ ['[']) + utf8Length inner) inner ++
        expandedGroups depth
          ((readList (depth + 1) none inner).asOptional.args.getLast?.or previous)
          (utf8Length (before ++ '[' :: (inner ++ [']'])) + utf8Length rest) rest := by
  have openSize : '['.utf8Size = 1 := rfl
  have closeSize : ']'.utf8Size = 1 := rfl
  have innerStop : utf8Length (before ++ '[' :: (inner ++ [']'])) - 1 =
      utf8Length (before ++ ['[']) + utf8Length inner := by
    simp only [utf8Length_append, utf8Length_cons, utf8Length_nil]
    omega
  have start : utf8Length (before ++ '[' :: (inner ++ [']'])) - utf8Length inner - 2 =
      utf8Length before := by
    simp only [utf8Length_append, utf8Length_cons, utf8Length_nil]
    omega
  rw [expandedGroups_eq, turn]
  simp only [Nat.add_sub_cancel, innerStop, start]
  rw [Span.of, ← utf8Length_append before]

/-- The list in a group is placed between the brackets of the group. -/
theorem Placed.inBrackets {inner rest : List Char} (before : List Char)
    (placed : Placed (.ofList (before ++ ['['] ++ (inner ++ ']' :: rest))) groups
      (utf8Length (before ++ ['['])) args places
      (utf8Length (before ++ ['[']) + utf8Length inner)) :
    Placed (.ofList (before ++ '[' :: (inner ++ [']']) ++ rest))
      (.of before ('[' :: (inner ++ [']'])) :: groups) (utf8Length before)
      (args.map (·.asOptional)) places (utf8Length (before ++ '[' :: (inner ++ [']']))) := by
  have sameText : before ++ ['['] ++ (inner ++ ']' :: rest) =
      before ++ '[' :: (inner ++ [']']) ++ rest := by simp
  have bracket := Span.text?_of before ('[' :: (inner ++ [']'])) rest
  rw [← List.append_assoc, ofList_bracket] at bracket
  rw [sameText] at placed
  have opens : (Span.of before ('[' :: (inner ++ [']']))).start ≤ utf8Length (before ++ ['[']) := by
    simp [Span.of]
  have closes : utf8Length (before ++ ['[']) + utf8Length inner ≤
      (Span.of before ('[' :: (inner ++ [']']))).stop := by
    simp only [Span.of, utf8Length_append, utf8Length_cons, utf8Length_nil]
    omega
  have stop : (Span.of before ('[' :: (inner ++ [']']))).stop =
      utf8Length (before ++ '[' :: (inner ++ [']'])) := (utf8Length_append _ _).symm
  have groupPlaced := placed.asOptional opens closes ⟨_, bracket⟩
  rwa [stop] at groupPlaced

/-- The arguments that are read of a list are placed in it. -/
theorem readList_placed (depth : Nat) (previous : Option Argument) (body before after : List Char) :
    ∃ places, Placed (.ofList (before ++ (body ++ after)))
      (expandedGroups depth previous (utf8Length before + utf8Length body) body)
      (utf8Length before) (readList depth previous body).args places
      (utf8Length before + utf8Length body) := by
  have takes := Turn.takes_nextTurn depth previous body
  fun_induction readList depth previous body generalizing before after with
  | case1 depth previous body turn =>
    rw [expandedGroups_eq, turn]
    exact ⟨[], .nil (Nat.le_add_right _ _)⟩
  | case2 depth previous body why turn =>
    rw [expandedGroups_eq, turn]
    exact ⟨[], .nil (Nat.le_add_right _ _)⟩
  | case3 depth previous body rest turn ih =>
    rw [turn] at takes
    rcases takes with ⟨taken, rfl⟩
    obtain ⟨places, placed⟩ := ih (before ++ taken) after (Turn.takes_nextTurn _ _ _)
    rw [expandedGroups_eq, turn]
    have le : utf8Length before ≤ utf8Length (before ++ taken) := by simp
    exact ⟨places, by simpa [Nat.add_assoc] using placed.mono_left le⟩
  | case4 depth previous body inner rest turn group ihInner ihRest =>
    rw [turn] at takes
    rcases takes with ⟨gap, rfl⟩
    have sameRest : before ++ gap ++ '[' :: (inner ++ [']']) ++ (rest ++ after) =
        before ++ (gap ++ '[' :: (inner ++ ']' :: rest) ++ after) := by simp
    have sameStop : utf8Length before + utf8Length (gap ++ '[' :: (inner ++ ']' :: rest)) =
        utf8Length (before ++ gap ++ '[' :: (inner ++ [']'])) + utf8Length rest := by
      simp [Nat.add_assoc]
    obtain ⟨innerPlaces, innerPlaced⟩ := ihInner (before ++ gap ++ ['[']) (']' :: (rest ++ after))
      (Turn.takes_nextTurn _ _ _)
    obtain ⟨restPlaces, restPlaced⟩ := ihRest (before ++ gap ++ '[' :: (inner ++ [']'])) after
      (Turn.takes_nextTurn _ _ _)
    have placed := (innerPlaced.inBrackets (before ++ gap)).append restPlaced
    have start : utf8Length before ≤ utf8Length (before ++ gap) := by simp
    rw [sameRest] at placed
    rw [sameStop, expandedGroups_group turn (before ++ gap)]
    exact ⟨innerPlaces ++ restPlaces, placed.mono_left start⟩
  | case5 depth previous body arg turn =>
    rw [turn] at takes
    rcases takes with ⟨taken, rfl, standsIn⟩
    obtain ⟨place, placed⟩ := exists_placed_of_standsIn standsIn before after
    rw [expandedGroups_eq, turn]
    exact ⟨[place], by simpa [After.rest] using placed⟩
  | case6 depth previous body arg why turn =>
    rw [turn] at takes
    rcases takes with ⟨taken, rfl, standsIn⟩
    obtain ⟨place, placed⟩ := exists_placed_of_standsIn standsIn before after
    rw [expandedGroups_eq, turn]
    exact ⟨[place], by simpa [After.rest] using placed⟩
  | case7 depth previous body arg rest turn ih =>
    rw [turn] at takes
    rcases takes with ⟨taken, rfl, standsIn⟩
    obtain ⟨place, placed⟩ := exists_placed_of_standsIn standsIn before (rest ++ after)
    obtain ⟨places, restPlaced⟩ := ih (before ++ taken) after (Turn.takes_nextTurn _ _ _)
    rw [expandedGroups_eq, turn]
    refine ⟨place :: places, ?_⟩
    simp only [List.append_assoc, utf8Length_append, Nat.add_assoc] at placed restPlaced ⊢
    exact placed.append restPlaced

end Parse

/-- The ranges of the optional groups that are read into when the signature that
a text starts with is read. -/
def parseGroups (text : String) : List Span :=
  match group? '(' ')' text.toList with
  | some (body, _) => Parse.expandedGroups 0 none (1 + utf8Length body) body
  | none => []

/-- Nothing is read of a text, or the list between its parentheses is. -/
theorem parseArguments_cases (text : String) :
    parseArguments text = [] ∧ parseGroups text = [] ∨
      ∃ body after, group? '(' ')' text.toList = some (body, after) ∧
        text = .ofList (['('] ++ (body ++ ')' :: after)) ∧
        parseArguments text = (Parse.readList 0 none body).args ∧
        parseGroups text =
          Parse.expandedGroups 0 none (utf8Length ['('] + utf8Length body) body := by
  simp only [parseArguments, parseSignature, Parse.readSignature, parseGroups]
  cases list : group? '(' ')' text.toList with
  | none =>
    refine .inl ⟨?_, rfl⟩
    dsimp only
    split <;> rfl
  | some found =>
    rcases found with ⟨body, after⟩
    refine .inr ⟨body, after, rfl, ?_, rfl, rfl⟩
    rw [List.singleton_append, ← group?_eq_some list, String.ofList_toList]

/-- The arguments of a signature stand inside its parentheses, each text in a
range of its own and all of them in order, and those are optional whose names
stand in a group that is read into. Without a list that closes nothing is
read. -/
theorem parseSignature_placed (text : String) :
    match matchingClose? text '(' ')' with
    | none => parseSignature text = .empty
    | some stop => ∃ places : List Placement,
        List.Forall₂ (fun arg place => arg.StandsAt text place ∧
          (arg.optional = true ↔ ∃ group ∈ parseGroups text, place.name.Within group))
          (parseArguments text) places ∧
        (∀ span ∈ places.flatMap (·.spans),
          1 ≤ span.start ∧ span.start < span.stop ∧ span.stop ≤ stop) ∧
        (places.flatMap (·.spans)).Pairwise (fun one other => one.stop ≤ other.start) ∧
        ∀ group ∈ parseGroups text, 1 ≤ group.start ∧ group.stop ≤ stop ∧
          ∃ inner, group.text? text = some ("[" ++ inner ++ "]") := by
  rw [matchingClose?]
  cases list : group? '(' ')' text.toList with
  | none =>
    simp only [Option.map_none, parseSignature, Parse.readSignature, list]
    split <;> rfl
  | some found =>
    rcases found with ⟨body, after⟩
    have whole := group?_eq_some list
    have openSize : utf8Length ['('] = 1 := rfl
    obtain ⟨places, placed⟩ := Parse.readList_placed 0 none body ['('] (')' :: after)
    have same : String.ofList (['('] ++ (body ++ ')' :: after)) = text := by
      rw [List.singleton_append, ← whole, String.ofList_toList]
    rw [same, openSize] at placed
    simp only [Option.map_some, parseArguments, parseSignature, Parse.readSignature, parseGroups,
      list]
    refine ⟨places, placed.standAt, ?_, placed.inOrder.pairwise, ?_⟩
    · exact placed.inOrder.bounds
    · exact placed.groups

example : parseGroups "(é[, b[, c]]) -> [d]" = [⟨3, 13⟩, ⟨7, 12⟩] := by decide +kernel

end CallSig
