import CallSig.Proofs.Parse.NormalForm
import CallSig.Proofs.Parse.Placement

/-!
# What an ellipsis looks back at

An ellipsis is named after the argument in front of it, and an optional group is a
list of its own: in it an ellipsis does not look back past the `[`, while behind it
the last argument of the group is the one in front. In the flat list of all arguments
this reads as follows: an ellipsis looks back at the argument just before it, if that
stands in every group that the ellipsis stands in (`lookBack`).

`Follows` says so of a stretch of the list, behind an argument that may be read
already, and `readList_traced` proves it by induction on the reading.
-/

namespace CallSig

open CallSig.Bracket CallSig.Octet CallSig.Text

namespace Parse

/-- The name is one that an ellipsis is given. -/
def IsEllipsisName (name : String) : Prop :=
  name = "**args" ∨ name = "**kwargs"

variable {depth : Nat} {previous : Option Argument} {body text : List Char} {arg : Argument}

/-! ## One turn -/

/-- An ellipsis that the turn reads is named after the argument in front of it. -/
def Turn.NamesEllipsis (previous : Option Argument) : Turn → Prop
  | .argument arg _ => IsEllipsisName arg.name → arg.name = ellipsisName previous
  | _ => True

/-- A turn that reads a name names an ellipsis as the name does. -/
theorem Turn.TakesParts.namesEllipsis {name : String} {turn : Turn}
    (parts : turn.TakesParts name text)
    (named : IsEllipsisName name → name = ellipsisName previous) :
    turn.NamesEllipsis previous := by
  rcases parts with ⟨type, default, after, typeText, defaultText, rfl, -⟩
  exact named

theorem mem_star_of_isEllipsisName {name : String} (ellipsis : IsEllipsisName name) :
    '*' ∈ name.toList := by
  rcases ellipsis with rfl | rfl <;> decide

/-- Where no star is written, a name with one is that of an ellipsis. -/
theorem readName_namesEllipsis (noStar : '*' ∉ text) (previous : Option Argument) :
    (readName previous text).NamesEllipsis previous := by
  unfold readName
  split
  · trivial
  · next taken after found =>
    split
    · unfold readNameless
      split <;> trivial
    · have parts := readAfterName_takes
        (if String.ofList (trim taken) = "..." then ellipsisName previous
          else String.ofList (trim taken)) (String.ofList (trim taken)) after
      refine parts.namesEllipsis fun ellipsis => ?_
      by_cases isEllipsis : String.ofList (trim taken) = "..."
      · rw [if_pos isEllipsis]
      · rw [if_neg isEllipsis] at ellipsis
        have star := mem_star_of_isEllipsisName ellipsis
        rw [String.toList_ofList] at star
        obtain ⟨before, behind, -, -, whole⟩ := exists_eq_append_trim taken
        refine absurd ?_ noStar
        rw [cut?_eq_some found, whole]
        simp [star]

theorem readGroupedName_namesEllipsis (previous : Option Argument) (text : List Char) :
    (readGroupedName text).NamesEllipsis previous := by
  unfold readGroupedName
  split
  · trivial
  · refine (readOptionalDefault_takes _ (PartIn.none []) _).namesEllipsis fun ellipsis => ?_
    rcases ellipsis with same | same <;>
      exact absurd (congrArg (·.toList.head?) same) (by simp)

/-- A turn names an ellipsis after the argument in front of it. -/
theorem Turn.namesEllipsis_nextTurn (noStar : '*' ∉ body) (depth : Nat)
    (previous : Option Argument) : (nextTurn depth previous body).NamesEllipsis previous := by
  unfold nextTurn
  split
  · trivial
  · unfold readGroup
    split
    · trivial
    · split <;> trivial
  · exact readGroupedName_namesEllipsis previous _
  · next c rest _ _ same =>
    refine readName_namesEllipsis (fun star => noStar ?_) previous
    rw [← same] at star
    exact (List.dropWhile_sublist _).subset star

/-! ## What is in front of a place -/

/-- The argument in front of a place, if it stands in every group that the place
stands in. -/
def lookBack (groups : List Span) (front : Option (Argument × Placement)) (place : Placement) :
    Option Argument :=
  (front.filter fun (_, there) =>
    ∀ group ∈ groups, place.name.Within group → there.name.Within group).map (·.1)

/-- An ellipsis collects keyword arguments just when the argument in front has a default
value. -/
theorem ellipsisName_eq_kwargs_iff {previous : Option Argument} :
    ellipsisName previous = "**kwargs" ↔ ∃ arg, previous = some arg ∧ arg.hasDefault = true := by
  cases previous with
  | none => simp [ellipsisName]
  | some arg => cases default : arg.hasDefault <;> simp [ellipsisName, default]

/-- What is looked back at is in front, and in every group in which the place is. -/
theorem lookBack_eq_some_iff {groups : List Span} {front : Option (Argument × Placement)}
    {place : Placement} : lookBack groups front place = some arg ↔
      ∃ there, front = some (arg, there) ∧
        ∀ group ∈ groups, place.name.Within group → there.name.Within group := by
  simp [lookBack, Option.filter_eq_some_iff]

/-- Every ellipsis in a stretch of arguments is named after the one in front of it, as
far as it looks back. -/
def Follows (groups : List Span) :
    Option (Argument × Placement) → List (Argument × Placement) → Prop
  | _, [] => True
  | front, item :: items =>
    (IsEllipsisName item.1.name → item.1.name = ellipsisName (lookBack groups front item.2)) ∧
      Follows groups (some item) items

/-- The argument, where it stands, as an optional one. -/
def optionalItem (item : Argument × Placement) : Argument × Placement :=
  (item.1.asOptional, item.2)

variable {groups spans inners others : List Span} {own : Span} {place : Placement}
  {front : Option (Argument × Placement)} {items more : List (Argument × Placement)}

/-- Ellipses of two stretches are named as in one, the second stretch behind the last
argument of the first. -/
theorem follows_append : Follows groups front (items ++ more) ↔
    Follows groups front items ∧ Follows groups (items.getLast?.or front) more := by
  induction items generalizing front with
  | nil => simp [Follows]
  | cons item items ih =>
    have last : (item :: items).getLast?.or front = items.getLast?.or (some item) := by
      rw [List.getLast?_cons]
      cases items.getLast? <;> rfl
    rw [List.cons_append, Follows, Follows, ih, last, and_assoc]

/-- What an ellipsis looks back at depends on the groups that it stands in. -/
theorem Follows.congr (follows : Follows groups front items)
    (same : ∀ item ∈ items, ∀ group, item.2.name.Within group →
      (group ∈ groups ↔ group ∈ spans)) : Follows spans front items := by
  induction items generalizing front with
  | nil => trivial
  | cons item items ih =>
    obtain ⟨here, later⟩ := List.forall_mem_cons.mp same
    have sameBack : lookBack spans front item.2 = lookBack groups front item.2 := by
      simp only [lookBack]
      congr 2
      funext (_, there)
      rw [decide_eq_decide]
      exact ⟨fun all group inside within => all group ((here group within).mp inside) within,
        fun all group inside within => all group ((here group within).mpr inside) within⟩
    refine ⟨?_, ih follows.2 later⟩
    rw [sameBack]
    exact follows.1

theorem ellipsisName_map_asOptional (previous : Option Argument) :
    ellipsisName (previous.map (·.asOptional)) = ellipsisName previous := by
  cases previous <;> rfl

/-- Inside of a group an ellipsis looks back as in the list of the group. -/
theorem Follows.inGroup (follows : Follows inners front items)
    (frontIn : ∀ item ∈ front, item.2.name.Within own)
    (itemsIn : ∀ item ∈ items, item.2.name.Within own) :
    Follows (own :: inners) (front.map optionalItem) (items.map optionalItem) := by
  induction items generalizing front with
  | nil => trivial
  | cons item items ih =>
    obtain ⟨here, later⟩ := List.forall_mem_cons.mp itemsIn
    have sameBack : lookBack (own :: inners) (front.map optionalItem) (optionalItem item).2 =
        (lookBack inners front item.2).map (·.asOptional) := by
      cases front with
      | none => rfl
      | some before =>
        -- The group itself holds both the place and what is in front of it.
        have within := frontIn before rfl
        simp [lookBack, optionalItem, Option.filter, within, apply_ite]
    refine ⟨fun ellipsis => ?_, ih follows.2 (by rintro _ ⟨⟩; exact here) later⟩
    rw [sameBack, ellipsisName_map_asOptional]
    exact follows.1 ellipsis

/-- The first ellipsis of a group does not look back at what stands before the group. -/
theorem Follows.enter (follows : Follows inners none items)
    (frontOut : ∀ item ∈ front, ¬ item.2.name.Within own)
    (itemsIn : ∀ item ∈ items, item.2.name.Within own) :
    Follows (own :: inners) front (items.map optionalItem) := by
  cases items with
  | nil => trivial
  | cons item items =>
    obtain ⟨here, later⟩ := List.forall_mem_cons.mp itemsIn
    have noBack : lookBack (own :: inners) front (optionalItem item).2 = none := by
      cases front with
      | none => rfl
      | some before =>
        have outside := frontOut before rfl
        simp [lookBack, optionalItem, Option.filter, here, outside]
    refine ⟨fun ellipsis => ?_, follows.2.inGroup (by rintro _ ⟨⟩; exact here) later⟩
    rw [noBack]
    exact follows.1 ellipsis

/-! ## A list -/

/-- What is in front of a place stands before it. -/
def InFront (front : Option (Argument × Placement)) (place : Nat) : Prop :=
  ∀ item ∈ front, item.2.name.start < item.2.name.stop ∧ item.2.name.stop ≤ place

/-- The arguments have these ranges between two places, and their ellipses are named
after what is in front of them. -/
structure Traced (whole : String) (groups : List Span) (first : Nat)
    (front : Option (Argument × Placement)) (items : List (Argument × Placement))
    (last : Nat) : Prop where
  placed : Placed whole groups first (items.map (·.1)) (items.map (·.2)) last
  follows : Follows groups front items

variable {whole : String} {first middle last : Nat}

theorem InFront.none (place : Nat) : InFront none place := by
  intro item inside
  cases inside

theorem InFront.mono {upper : Nat} (inFront : InFront front first) (le : first ≤ upper) :
    InFront front upper :=
  fun item inside => ⟨(inFront item inside).1, Nat.le_trans (inFront item inside).2 le⟩

theorem InFront.not_within (inFront : InFront front first) (start : first ≤ own.start) :
    ∀ item ∈ front, ¬ item.2.name.Within own := by
  rintro item inside ⟨opens, -⟩
  have bounds := inFront item inside
  omega

theorem Traced.nil (le : first ≤ last) : Traced whole [] first front [] last where
  placed := .nil le
  follows := trivial

theorem Traced.mono_left {lower : Nat} (traced : Traced whole groups first front items last)
    (le : lower ≤ first) : Traced whole groups lower front items last where
  placed := traced.placed.mono_left le
  follows := traced.follows

theorem Traced.name_bounds (traced : Traced whole groups first front items last) :
    ∀ item ∈ items, first ≤ item.2.name.start ∧ item.2.name.start < item.2.name.stop ∧
      item.2.name.stop ≤ last :=
  fun _ inside => traced.placed.name_bounds _ (List.mem_map_of_mem inside)

/-- What is in front of the place behind a list is the last argument of the list, or
what is in front of the list. -/
theorem Traced.inFront (traced : Traced whole groups first front items last)
    (inFront : InFront front first) : InFront (items.getLast?.or front) last := by
  intro item inside
  rcases Option.or_eq_some_iff.mp inside with inList | ⟨-, before⟩
  · exact (traced.name_bounds item (List.mem_of_getLast? inList)).2
  · exact inFront.mono traced.placed.inOrder.le item before

/-- Lists that stand one behind the other are traced together. -/
theorem Traced.append (traced : Traced whole groups first front items middle)
    (behind : Traced whole others middle (items.getLast?.or front) more last) :
    Traced whole (groups ++ others) first front (items ++ more) last where
  placed := by
    rw [List.map_append, List.map_append]
    exact traced.placed.append behind.placed
  follows := by
    refine follows_append.mpr ⟨traced.follows.congr fun item inside group within => ?_,
      behind.follows.congr fun item inside group within => ?_⟩
    · have name := traced.name_bounds item inside
      refine ⟨List.mem_append_left _, fun either => (List.mem_append.mp either).resolve_right ?_⟩
      intro there
      have bounds := behind.placed.groups group there
      rcases within with ⟨opens, -⟩
      omega
    · have name := behind.name_bounds item inside
      refine ⟨List.mem_append_right _, fun either => (List.mem_append.mp either).resolve_left ?_⟩
      intro there
      have bounds := traced.placed.groups group there
      rcases within with ⟨-, closes⟩
      omega

/-- The list in a group is traced between the brackets of the group. -/
theorem Traced.inBrackets {inner rest : List Char} (before : List Char)
    (traced : Traced (.ofList (before ++ ['['] ++ (inner ++ ']' :: rest))) groups
      (utf8Length (before ++ ['['])) none items (utf8Length (before ++ ['[']) + utf8Length inner))
    (inFront : InFront front (utf8Length before)) :
    Traced (.ofList (before ++ '[' :: (inner ++ [']']) ++ rest))
      (.of before ('[' :: (inner ++ [']'])) :: groups) (utf8Length before) front
      (items.map optionalItem) (utf8Length (before ++ '[' :: (inner ++ [']']))) where
  placed := by
    have placed := traced.placed.inBrackets before
    rw [List.map_map] at placed ⊢
    rwa [List.map_map]
  follows := by
    refine traced.follows.enter (inFront.not_within (Nat.le_refl _)) fun item inside => ?_
    have name := traced.name_bounds item inside
    simp only [Span.Within, Span.of, utf8Length_append, utf8Length_cons, utf8Length_nil] at name ⊢
    omega

/-- One argument is traced where its texts stand, if it is named so in case it is an
ellipsis. -/
theorem exists_traced_of_standsIn {taken : List Char} (standsIn : StandsIn arg taken)
    (named : IsEllipsisName arg.name → arg.name = ellipsisName (front.map (·.1)))
    (before after : List Char) :
    ∃ place, Traced (.ofList (before ++ (taken ++ after))) [] (utf8Length before) front
      [(arg, place)] (utf8Length before + utf8Length taken) := by
  obtain ⟨place, placed⟩ := exists_placed_of_standsIn standsIn before after
  have noGroup : lookBack [] front place = front.map (·.1) := by
    cases front <;> simp [lookBack, Option.filter]
  refine ⟨place, placed, fun ellipsis => ?_, trivial⟩
  rw [noGroup]
  exact named ellipsis

/-- The arguments that are read of a list without a `*` are traced in it. -/
theorem readList_traced (depth : Nat) (previous : Option Argument) (body : List Char)
    (noStar : '*' ∉ body) (front : Option (Argument × Placement))
    (same : front.map (·.1) = previous) (before after : List Char)
    (inFront : InFront front (utf8Length before)) :
    ∃ items, items.map (·.1) = (readList depth previous body).args ∧
      Traced (.ofList (before ++ (body ++ after)))
        (expandedGroups depth previous (utf8Length before + utf8Length body) body)
        (utf8Length before) front items (utf8Length before + utf8Length body) := by
  have takes := Turn.takes_nextTurn depth previous body
  have names := Turn.namesEllipsis_nextTurn noStar depth previous
  -- `front` goes into the induction: in a group there is none, and behind the group it is the
  -- last argument of the group.
  fun_induction readList depth previous body generalizing front before after with
  | case1 depth previous body turn =>
    rw [expandedGroups_eq, turn]
    exact ⟨[], rfl, .nil (Nat.le_add_right _ _)⟩
  | case2 depth previous body why turn =>
    rw [expandedGroups_eq, turn]
    exact ⟨[], rfl, .nil (Nat.le_add_right _ _)⟩
  | case3 depth previous body rest turn ih =>
    rw [turn] at takes
    rcases takes with ⟨taken, rfl⟩
    have noStarRest : '*' ∉ rest := fun star => noStar (List.mem_append_right _ star)
    have le : utf8Length before ≤ utf8Length (before ++ taken) := by simp
    obtain ⟨items, args, traced⟩ := ih noStarRest front same (before ++ taken) after
      (inFront.mono le) (Turn.takes_nextTurn _ _ _) (Turn.namesEllipsis_nextTurn noStarRest _ _)
    rw [expandedGroups_eq, turn]
    exact ⟨items, args, by simpa [Nat.add_assoc] using traced.mono_left le⟩
  | case4 depth previous body inner rest turn group ihInner ihRest =>
    rw [turn] at takes
    rcases takes with ⟨gap, rfl⟩
    have noStarInner : '*' ∉ inner := fun star => noStar (by simp [star])
    have noStarRest : '*' ∉ rest := fun star => noStar (by simp [star])
    have sameRest : before ++ gap ++ '[' :: (inner ++ [']']) ++ (rest ++ after) =
        before ++ (gap ++ '[' :: (inner ++ ']' :: rest) ++ after) := by simp
    have sameStop : utf8Length before + utf8Length (gap ++ '[' :: (inner ++ ']' :: rest)) =
        utf8Length (before ++ gap ++ '[' :: (inner ++ [']'])) + utf8Length rest := by
      simp [Nat.add_assoc]
    have start : utf8Length before ≤ utf8Length (before ++ gap) := by simp
    obtain ⟨innerItems, innerArgs, innerTraced⟩ := ihInner noStarInner none rfl
      (before ++ gap ++ ['[']) (']' :: (rest ++ after)) (.none _)
      (Turn.takes_nextTurn _ _ _) (Turn.namesEllipsis_nextTurn noStarInner _ _)
    have bracket := innerTraced.inBrackets (before ++ gap) (inFront.mono start)
    have groupArgs : (innerItems.map optionalItem).map (·.1) = group.args := by
      rw [Reading.args_asOptional, ← innerArgs, List.map_map, List.map_map]
      rfl
    have sameLast : ((innerItems.map optionalItem).getLast?.or front).map (·.1) =
        group.args.getLast?.or previous := by
      rw [Option.map_or, ← List.getLast?_map, groupArgs, same]
    obtain ⟨restItems, restArgs, restTraced⟩ := ihRest noStarRest _ sameLast
      (before ++ gap ++ '[' :: (inner ++ [']'])) after (bracket.inFront (inFront.mono start))
      (Turn.takes_nextTurn _ _ _) (Turn.namesEllipsis_nextTurn noStarRest _ _)
    have traced := bracket.append restTraced
    rw [sameRest] at traced
    rw [sameStop, expandedGroups_group turn (before ++ gap)]
    refine ⟨innerItems.map optionalItem ++ restItems, ?_, traced.mono_left start⟩
    rw [List.map_append, groupArgs, restArgs, Reading.args_append]
  | case5 depth previous body arg turn =>
    rw [turn] at takes names
    rcases takes with ⟨taken, rfl, standsIn⟩
    obtain ⟨place, traced⟩ := exists_traced_of_standsIn standsIn (same ▸ names) before after
    rw [expandedGroups_eq, turn]
    exact ⟨[(arg, place)], rfl, by simpa [After.rest] using traced⟩
  | case6 depth previous body arg why turn =>
    rw [turn] at takes names
    rcases takes with ⟨taken, rfl, standsIn⟩
    obtain ⟨place, traced⟩ := exists_traced_of_standsIn standsIn (same ▸ names) before after
    rw [expandedGroups_eq, turn]
    exact ⟨[(arg, place)], rfl, by simpa [After.rest] using traced⟩
  | case7 depth previous body arg rest turn ih =>
    rw [turn] at takes names
    rcases takes with ⟨taken, rfl, standsIn⟩
    have noStarRest : '*' ∉ rest := fun star => noStar (List.mem_append_right _ star)
    obtain ⟨place, traced⟩ := exists_traced_of_standsIn standsIn (same ▸ names) before
      (rest ++ after)
    have behind := traced.inFront inFront
    rw [← utf8Length_append] at behind
    obtain ⟨items, args, restTraced⟩ := ih noStarRest (some (arg, place)) rfl (before ++ taken)
      after behind (Turn.takes_nextTurn _ _ _) (Turn.namesEllipsis_nextTurn noStarRest _ _)
    rw [expandedGroups_eq, turn]
    refine ⟨(arg, place) :: items, by rw [List.map_cons, args]; rfl, ?_⟩
    simp only [List.append_assoc, utf8Length_append, Nat.add_assoc] at traced restTraced ⊢
    exact traced.append restTraced

end Parse

/-! ## Signatures -/

open Parse

/-- The arguments of a signature without a star are traced behind its opening
parenthesis. -/
theorem exists_traced {text : String} (noStar : '*' ∉ text.toList) :
    ∃ items stop, items.map (·.1) = parseArguments text ∧
      Traced text (parseGroups text) 1 none items stop := by
  rcases parseArguments_cases text with ⟨noArgs, noGroups⟩ |
    ⟨body, after, list, whole, args, groups⟩
  · rw [noArgs, noGroups]
    exact ⟨[], 1, rfl, .nil (Nat.le_refl 1)⟩
  · have noStarBody : '*' ∉ body := fun star => noStar (by simp [group?_eq_some list, star])
    obtain ⟨items, same, traced⟩ := readList_traced 0 none body noStarBody none rfl ['(']
      (')' :: after) (.none _)
    rw [← whole] at traced
    rw [args, groups]
    exact ⟨items, _, same, traced⟩

/-- No argument keeps the name that the ellipsis is written with. -/
theorem name_ne_ellipsis_of_mem_parseArguments (text : String) :
    ∀ arg ∈ parseArguments text, arg.name ≠ "..." := by
  refine forall_mem_parseArguments _ (fun {depth previous body arg after} turn => ?_) id text
  have normal := Turn.normal_nextTurn depth previous body
  rw [turn] at normal
  exact normal.name_ne_ellipsis

/-- In a text without a `*` the arguments that stand on an ellipsis are those named
`**args` or `**kwargs`. The name is `**kwargs` if the argument just before has a default
value and stands in every group that the ellipsis stands in. -/
theorem parseArguments_ellipsis {text : String} (noStar : '*' ∉ text.toList) :
    ∃ places stop, Placed text (parseGroups text) 1 (parseArguments text) places stop ∧
      ∀ front arg place behind,
        (parseArguments text).zip places = front ++ (arg, place) :: behind →
        (place.name.text? text = some "..." ↔ arg.name = "**args" ∨ arg.name = "**kwargs") ∧
        (arg.name = "**kwargs" ↔ place.name.text? text = some "..." ∧
          ∃ before there, front.getLast? = some (before, there) ∧ before.hasDefault = true ∧
            ∀ group ∈ parseGroups text, place.name.Within group → there.name.Within group) := by
  obtain ⟨items, stop, args, traced⟩ := exists_traced noStar
  have placed := traced.placed
  rw [args] at placed
  refine ⟨_, stop, placed, fun front arg place behind split => ?_⟩
  have inside : (arg, place) ∈ (parseArguments text).zip (items.map (·.2)) := by
    rw [split]
    exact List.mem_append_right _ List.mem_cons_self
  have standsAt := ((List.forall₂_iff_zip.mp placed.standAt).2 inside).1
  have notDots := name_ne_ellipsis_of_mem_parseArguments text arg (List.of_mem_zip inside).1
  have onDots : place.name.text? text = some "..." ↔ IsEllipsisName arg.name := by
    rcases standsAt.name with own | ⟨dots, ellipsis⟩
    · refine iff_of_false (fun dots => notDots ?_) fun ellipsis => noStar ?_
      · exact Option.some.inj (own.symm.trans dots)
      · exact (isInfix_of_slice? own).subset (mem_star_of_isEllipsisName ellipsis)
    · exact iff_of_true dots ellipsis
  have named : IsEllipsisName arg.name →
      arg.name = ellipsisName (lookBack (parseGroups text) front.getLast? place) := by
    have follows := traced.follows
    rw [List.zip_of_prod args rfl, split, follows_append, Option.or_none] at follows
    exact follows.2.1
  refine ⟨onDots, fun kwargs => ?_, fun ⟨dots, before, there, last, default, beside⟩ => ?_⟩
  · have ellipsis : IsEllipsisName arg.name := .inr kwargs
    have name := named ellipsis
    rw [kwargs] at name
    obtain ⟨before, back, default⟩ := ellipsisName_eq_kwargs_iff.mp name.symm
    obtain ⟨there, last, beside⟩ := lookBack_eq_some_iff.mp back
    exact ⟨onDots.mpr ellipsis, before, there, last, default, beside⟩
  · rw [named (onDots.mp dots)]
    exact ellipsisName_eq_kwargs_iff.mpr
      ⟨before, lookBack_eq_some_iff.mpr ⟨there, last, beside⟩, default⟩

/-- The one behind the group looks back at its neighbour; the one in it does not look
back past the `[`. -/
theorem parseArguments_ellipsis_group :
    '*' ∉ "(a=1[, ...], b=[2], ...)".toList ∧
    parseArguments "(a=1[, ...], b=[2], ...)" =
      [⟨"a", none, some "1", false⟩, ⟨"**args", none, none, true⟩,
        ⟨"b", none, some "[2]", false⟩, ⟨"**kwargs", none, none, false⟩] ∧
    ∃ place there : Placement,
      place.name.text? "(a=1[, ...], b=[2], ...)" = some "..." ∧
      there.name.text? "(a=1[, ...], b=[2], ...)" = some "b" ∧
      ∀ group ∈ parseGroups "(a=1[, ...], b=[2], ...)",
        place.name.Within group → there.name.Within group := by
  have noStar : '*' ∉ "(a=1[, ...], b=[2], ...)".toList := by decide
  have args : parseArguments "(a=1[, ...], b=[2], ...)" =
      [⟨"a", none, some "1", false⟩, ⟨"**args", none, none, true⟩,
        ⟨"b", none, some "[2]", false⟩, ⟨"**kwargs", none, none, false⟩] := by decide +kernel
  refine ⟨noStar, args, ?_⟩
  obtain ⟨places, stop, placed, ellipsis⟩ := parseArguments_ellipsis noStar
  have standAt := placed.standAt
  rw [args] at standAt ellipsis
  obtain _ | @⟨_, first, _, _, -, _ | @⟨_, second, _, _, -, _ | @⟨_, there, _, _, onB,
    _ | @⟨_, place, _, _, -, ⟨⟩⟩⟩⟩⟩ := standAt
  have last := (ellipsis [(_, first), (_, second), (_, there)] _ place [] rfl).2.mp rfl
  obtain ⟨dots, before, front, same, -, beside⟩ := last
  cases same
  have name : there.name.text? "(a=1[, ...], b=[2], ...)" = some "b" :=
    onB.1.name.resolve_right (by simp)
  exact ⟨place, there, dots, name, beside⟩

/-- The first argument of a group is an ellipsis, and the argument before it has a
default value. -/
theorem parseArguments_ellipsis_behindDefault :
    '*' ∉ "(a=1[, ...])".toList ∧
      parseArguments "(a=1[, ...])" =
        [⟨"a", none, some "1", false⟩, ⟨"**args", none, none, true⟩] := by
  decide +kernel

end CallSig
