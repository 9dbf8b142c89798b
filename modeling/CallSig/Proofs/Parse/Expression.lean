import CallSig.Parse.Turn
import CallSig.Proofs.Bracket.Nesting

/-!
# Types and default values, read again

A type is a chain of stretches up to a stop, each but the last followed by a
subscript; `TypeCut` says so, and `cutType?_eq_some_iff` that this is what
`cutType?` returns. A type or a default value that is cut out of a text and
trimmed is read whole when it stands alone (`splitType?_self`,
`splitDefault?_self`).
-/

namespace CallSig.Parse

open CallSig.Bracket CallSig.Text

variable {taken more left text : List Char}

/-- `taken` is a type that ends in front of `left`. -/
inductive TypeCut : List Char → List Char → Prop
  | last {taken left : List Char} :
    cut? typeStops (taken ++ left) = some (taken, left) →
    (∀ rest, left = '[' :: rest → startsOptionalGroup rest = true) → TypeCut taken left
  | subscript {taken rest more left : List Char} :
    cut? typeStops (taken ++ '[' :: (rest ++ (more ++ left))) =
      some (taken, '[' :: (rest ++ (more ++ left))) →
    startsOptionalGroup (rest ++ (more ++ left)) = false →
    skipGroup? ('[' :: (rest ++ (more ++ left))) = some ('[' :: rest, more ++ left) →
    TypeCut more left → TypeCut (taken ++ '[' :: rest ++ more) left

/-- One cut of a type: it ends where a walk stops, unless a subscript stands there. -/
theorem cutType?_eq (text : List Char) :
    cutType? text =
      match cut? typeStops text with
      | none => none
      | some (taken, '[' :: rest) =>
        if startsOptionalGroup rest then some (taken, '[' :: rest)
        else
          (skipGroup? ('[' :: rest)).bind fun (subscript, after) =>
            (cutType? after).map fun (more, left) => (taken ++ subscript ++ more, left)
      | some (taken, left) => some (taken, left) := by
  rw [cutType?]
  split
  · next found => simp [found]
  · next found =>
    simp only [found]
    split
    · rfl
    · split <;> simp_all
  · next found => simp only [found]

/-- A subscript that closes is gone past as a whole. -/
theorem cutType?_subscript {rest subscript after : List Char}
    (required : startsOptionalGroup rest = false)
    (skipped : skipGroup? ('[' :: rest) = some (subscript, after)) :
    cutType? ('[' :: rest) =
      (cutType? after).map fun (more, left) => (subscript ++ more, left) := by
  have found : cut? typeStops ('[' :: rest) = some ([], '[' :: rest) := walk?_of_ends rfl
  rw [cutType?_eq, found]
  simp only [required, skipped, Option.bind_some]
  rfl

theorem typeCut_of_cutType? (found : cutType? text = some (taken, left)) :
    text = taken ++ left ∧ TypeCut taken left := by
  fun_induction cutType? text generalizing taken with
  | case1 => cases found
  | case2 text cutTaken rest cutFound optional =>
    simp only [Option.some.injEq, Prod.mk.injEq] at found
    rcases found with ⟨rfl, rfl⟩
    have whole := cut?_eq_some cutFound
    refine ⟨whole, .last (whole ▸ cutFound) fun other same => ?_⟩
    cases same
    exact optional
  | case3 => cases found
  | case4 text cutTaken rest cutFound required subscript after skipped ih =>
    obtain ⟨⟨more, moreLeft⟩, again, same⟩ := Option.map_eq_some_iff.mp found
    simp only [Prod.mk.injEq] at same
    rcases same with ⟨rfl, rfl⟩
    obtain ⟨rfl, cutMore⟩ := ih again
    have whole := cut?_eq_some cutFound
    have bracket := skipGroup?_eq_some skipped
    obtain ⟨opener, closer, inner, -, rfl, -, -⟩ := skipGroup?_eq_some_iff.mp skipped
    rw [List.cons_append, List.cons_append, List.cons.injEq] at bracket
    rcases bracket with ⟨rfl, rfl⟩
    subst whole
    refine ⟨by simp, ?_⟩
    exact .subscript cutFound (by simpa using required) skipped cutMore
  | case5 text cutTaken cutLeft notBracket cutFound =>
    simp only [Option.some.injEq, Prod.mk.injEq] at found
    rcases found with ⟨rfl, rfl⟩
    have whole := cut?_eq_some cutFound
    exact ⟨whole, .last (whole ▸ cutFound) fun rest same => absurd same (notBracket rest)⟩

/-- A type in front of what ends it is cut there. -/
theorem TypeCut.cutType? (cut : TypeCut taken left) :
    Parse.cutType? (taken ++ left) = some (taken, left) := by
  induction cut with
  | @last taken left found boundary =>
    rw [cutType?_eq, found]
    split
    · next same => cases same
    · next same =>
      cases same
      rw [if_pos (boundary _ rfl)]
    · next same =>
      cases same
      rfl
  | subscript found required skipped _ ih =>
    simp only [List.append_assoc, List.cons_append]
    rw [cutType?_eq, found]
    simp only [required, skipped, Option.bind_some, ih]
    simp

/-- What is cut is the type, and what is left ends it. -/
theorem cutType?_eq_some_iff :
    cutType? text = some (taken, left) ↔ text = taken ++ left ∧ TypeCut taken left := by
  constructor
  · exact typeCut_of_cutType?
  · intro parts
    rcases parts with ⟨rfl, cut⟩
    exact cut.cutType?

/-- What is split off is the type without the blanks around it. -/
theorem splitType?_eq_some_iff {type : List Char} :
    splitType? text = some (type, left) ↔
      ∃ taken, text = taken ++ left ∧ TypeCut taken left ∧ type = trim taken := by
  constructor
  · intro found
    obtain ⟨⟨taken, cutLeft⟩, cutFound, same⟩ := Option.map_eq_some_iff.mp found
    simp only [Prod.mk.injEq] at same
    rcases same with ⟨rfl, rfl⟩
    obtain ⟨whole, cut⟩ := cutType?_eq_some_iff.mp cutFound
    exact ⟨taken, whole, cut, rfl⟩
  · rintro ⟨taken, rfl, cut, rfl⟩
    rw [splitType?, cut.cutType?, Option.map_some]

/-! ## What a type depends on -/

/-- Whether a bracket starts an optional group is settled inside it. -/
theorem startsOptionalGroup_closed (inner rest : List Char) :
    startsOptionalGroup (inner ++ ']' :: rest) = startsOptionalGroup inner := by
  have visible : isBlank ']' = false := rfl
  induction inner with
  | nil =>
    rw [List.nil_append, startsOptionalGroup, trimStart_eq_self visible]
    rfl
  | cons c inner ih =>
    simp only [startsOptionalGroup, List.cons_append, trimStart_cons] at ih ⊢
    by_cases blank : isBlank c = true
    · rwa [if_pos blank, if_pos blank]
    · rw [if_neg blank, if_neg blank]
      rfl

theorem isBlank_of_closer? {opener closer : Char} (closes : closer? opener = some closer) :
    isBlank opener = false ∧ isBlank closer = false := by
  rcases closer?_eq_some closes with ⟨rfl, rfl⟩ | ⟨rfl, rfl⟩ | ⟨rfl, rfl⟩ | ⟨rfl, rfl⟩ <;> decide

/-- A subscript ends with a bracket. -/
theorem exists_closer_of_subscript {rest after : List Char}
    (skipped : skipGroup? ('[' :: rest ++ after) = some ('[' :: rest, after)) :
    ∃ inner, rest = inner ++ [']'] := by
  obtain ⟨opener, closer, inner, closes, same, -, -⟩ := skipGroup?_eq_some_iff.mp skipped
  simp only [List.cons_append, List.cons.injEq] at same
  rcases same with ⟨rfl, rfl⟩
  simp only [closer?] at closes
  cases closes
  exact ⟨inner, rfl⟩

/-- A subscript that has been read in front of one text is one in front of any
type. -/
theorem TypeCut.subscript_replaceRest {rest other : List Char}
    (found : cut? typeStops (taken ++ '[' :: (rest ++ other)) =
      some (taken, '[' :: (rest ++ other)))
    (required : startsOptionalGroup (rest ++ other) = false)
    (skipped : skipGroup? ('[' :: (rest ++ other)) = some ('[' :: rest, other))
    (again : TypeCut more left) : TypeCut (taken ++ '[' :: rest ++ more) left := by
  obtain ⟨inner, rfl⟩ := exists_closer_of_subscript skipped
  refine .subscript (cut?_replaceRest found) ?_ (skipGroup?_append skipped _) again
  simpa [startsOptionalGroup_closed] using required

/-- A type that is cut out of a text is a type on its own. -/
theorem TypeCut.alone (cut : TypeCut taken left) : TypeCut taken [] := by
  induction cut with
  | last found _ =>
    have whole := cut?_taken found
    exact .last (by rwa [List.append_nil]) fun rest same => nomatch same
  | subscript found required skipped _ ih => exact .subscript_replaceRest found required skipped ih

theorem TypeCut.dropFirst {c : Char} (blank : isBlank c = true) (cut : TypeCut (c :: taken) []) :
    TypeCut taken [] := by
  generalize same : c :: taken = whole at cut
  generalize atEnd : ([] : List Char) = left at cut
  cases cut with
  | last found boundary =>
    subst same
    exact .last (cut?_dropFirst blank found) boundary
  | @subscript first rest more _ found required skipped again =>
    cases first with
    | nil =>
      simp only [List.nil_append, List.cons_append, List.cons.injEq] at same
      exact absurd same.1 (ne_of_isBlank blank rfl)
    | cons d first =>
      simp only [List.cons_append, List.cons.injEq] at same
      rcases same with ⟨rfl, rfl⟩
      exact .subscript (cut?_dropFirst blank found) required skipped again

theorem TypeCut.dropLast {c : Char} (blank : isBlank c = true) (cut : TypeCut (taken ++ [c]) []) :
    TypeCut taken [] := by
  generalize same : taken ++ [c] = whole at cut
  generalize atEnd : ([] : List Char) = left at cut
  induction cut generalizing taken with
  | last found _ =>
    subst same atEnd
    rw [List.append_nil] at found
    have whole := cut?_dropLast blank found
    exact .last (by rwa [List.append_nil]) fun rest same => nomatch same
  | @subscript first rest more _ found required skipped _ ih =>
    subst atEnd
    rcases more.eq_nil_or_concat with rfl | ⟨before, d, rfl⟩
    · obtain ⟨inner, rfl⟩ := exists_closer_of_subscript skipped
      simp only [List.append_nil, ← List.cons_append, ← List.append_assoc] at same
      have closer := (List.append_inj' same rfl).2
      simp only [List.cons.injEq, and_true] at closer
      exact absurd closer (ne_of_isBlank blank rfl)
    · rw [List.concat_eq_append, ← List.append_assoc] at same
      obtain ⟨rfl, last⟩ := List.append_inj' same rfl
      simp only [List.cons.injEq, and_true] at last
      subst last
      exact .subscript_replaceRest found required skipped (ih (by simp) rfl)

/-- A type, read again on its own, is read whole. -/
theorem splitType?_self {type : List Char} (found : splitType? text = some (type, left)) :
    splitType? type = some (type, []) := by
  obtain ⟨taken, -, cut, rfl⟩ := splitType?_eq_some_iff.mp found
  have trimmed : TypeCut (trim taken) [] :=
    trim_of_drop (fun text => TypeCut text []) (fun _ _ => TypeCut.dropFirst)
      (fun _ _ => TypeCut.dropLast) cut.alone
  exact splitType?_eq_some_iff.mpr
    ⟨trim taken, (List.append_nil _).symm, trimmed, (trim_trim taken).symm⟩

/-! ## What a default value depends on -/

theorem closer?_of_opensValue {c : Char} (opens : opensValue c = true) :
    ∃ closer, closer? c = some closer := by
  simp only [opensValue, Bool.or_eq_true, decide_eq_true_eq] at opens
  rcases opens with (rfl | rfl) | rfl <;> exact ⟨_, rfl⟩

/-- A value that is a bracket is what is skipped as one bracket. -/
theorem leadingBracket?_eq_some {value : List Char}
    (found : leadingBracket? text = some (value, left)) :
    ∃ opener closer inner, opensValue opener = true ∧ closer? opener = some closer ∧
      value = opener :: inner ++ [closer] ∧ skipGroup? text = some (value, left) := by
  unfold leadingBracket? at found
  split at found
  · cases found
  next c rest =>
  split at found
  · next opens =>
    obtain ⟨opener, closer, inner, closes, rfl, same, -⟩ := skipGroup?_eq_some_iff.mp found
    rw [List.cons_append, List.cons_append, List.cons.injEq] at same
    rcases same with ⟨rfl, -⟩
    exact ⟨c, closer, inner, opens, closes, rfl, found⟩
  · cases found

/-- A default value is the bracket in front of the text, or what is cut where there is none. -/
theorem splitDefault?_eq_some {value : List Char} (found : splitDefault? text = some (value, left)) :
    leadingBracket? (trimStart text) = some (value, left) ∨
      leadingBracket? (trimStart text) = none ∧
        ∃ taken, cut? defaultStops (trimStart text) = some (taken, left) ∧ value = trim taken := by
  unfold splitDefault? at found
  split at found
  · next leading =>
    cases found
    exact .inl leading
  · next noBracket =>
    obtain ⟨⟨taken, cutLeft⟩, cutFound, same⟩ := Option.map_eq_some_iff.mp found
    simp only [Prod.mk.injEq] at same
    rcases same with ⟨rfl, rfl⟩
    exact .inr ⟨noBracket, taken, cutFound, rfl⟩

theorem trimmed_bracket {opener closer : Char} (closes : closer? opener = some closer)
    (inner : List Char) : Trimmed (opener :: inner ++ [closer]) := by
  obtain ⟨openerVisible, closerVisible⟩ := isBlank_of_closer? closes
  constructor
  · rintro c ⟨⟩
    exact openerVisible
  · intro c last
    rw [List.getLast?_append, List.getLast?_singleton, Option.some_or] at last
    cases last
    exact closerVisible

/-- In front of a bracket that opens a value and does not close a walk fails, unless the
bracket is a stop. -/
theorem cut?_of_unclosed {c : Char} {rest : List Char} (opens : opensValue c = true)
    (unclosed : skipGroup? (c :: rest) = none) :
    cut? defaultStops (c :: rest) = if c = '[' then some ([], c :: rest) else none := by
  obtain ⟨closer, closes⟩ := closer?_of_opensValue opens
  by_cases square : c = '['
  · subst square
    have ends : Ends defaultStops ('[' :: rest) := rfl
    rw [if_pos rfl, cut?, walk?_of_ends ends]
  · have notAngle : c ≠ '<' := by
      rintro rfl
      cases opens
    have notStop : isStop defaultStops c = false := by
      simp only [opensValue, Bool.or_eq_true, decide_eq_true_eq, square, or_false] at opens
      rcases opens with rfl | rfl <;> rfl
    rw [if_neg square, cut?_opener closes notAngle notStop, unclosed, Option.bind_none]

/-- A walk that gets past a bracket that opens a value has read it as one. -/
theorem not_opensValue_of_cut? {c : Char} {rest : List Char}
    (noBracket : leadingBracket? (c :: rest) = none)
    (found : cut? defaultStops (c :: rest) = some (taken, left)) (nonempty : taken ≠ []) :
    opensValue c = false := by
  by_contra opens
  rw [Bool.not_eq_false] at opens
  rw [leadingBracket?, if_pos opens] at noBracket
  rw [cut?_of_unclosed opens noBracket] at found
  split at found
  · cases found
    exact nonempty rfl
  · cases found

/-- A default value that is not blank, read again on its own, is read whole. -/
theorem splitDefault?_self {value : List Char} (found : splitDefault? text = some (value, left))
    (nonempty : trim value ≠ []) : splitDefault? value = some (value, []) ∧ Trimmed value := by
  rcases splitDefault?_eq_some found with leading | ⟨noBracket, cutTaken, cutFound, rfl⟩
  · obtain ⟨opener, closer, inner, opens, closes, rfl, skipped⟩ := leadingBracket?_eq_some leading
    have trimmed := trimmed_bracket closes inner
    refine ⟨?_, trimmed⟩
    have again := skipGroup?_append skipped []
    rw [List.append_nil] at again
    have bracket : leadingBracket? (opener :: inner ++ [closer]) =
        some (opener :: inner ++ [closer], []) := by
      rw [List.cons_append, leadingBracket?, if_pos opens]
      exact again
    rw [splitDefault?, trimStart_of_trimmed trimmed, bracket]
  · refine ⟨?_, trimmed_trim cutTaken⟩
    rw [trim_trim] at nonempty
    have noBracketAgain : leadingBracket? (trim cutTaken) = none := by
      cases cutTaken with
      | nil => exact absurd rfl nonempty
      | cons c taken =>
        have start := cut?_eq_some cutFound
        have visible : isBlank c = false := head?_trimStart (by rw [start]; rfl)
        obtain ⟨kept, same⟩ := exists_trim_eq_cons visible taken
        rw [start] at noBracket cutFound
        have noValue := not_opensValue_of_cut? noBracket cutFound (List.cons_ne_nil _ _)
        rw [same, leadingBracket?, noValue]
        rfl
    rw [splitDefault?, trimStart_of_trimmed (trimmed_trim cutTaken), noBracketAgain]
    simp only [cut?_trim (cut?_taken cutFound), Option.map_some, trim_trim]

/-! ## What an argument keeps -/

theorem kept_eq_some {value : String} (same : kept text = some value) :
    trim text ≠ [] ∧ value = String.ofList (trim text) := by
  rw [kept, Argument.present?, String.toList_ofList, nonEmpty?] at same
  split at same
  · cases same
  · next visible =>
    simp only [Option.map_some, Option.some.injEq] at same
    exact ⟨visible, same.symm⟩

theorem kept_of_trimmed {text : String} (nonempty : text.toList ≠ [])
    (trimmed : Trimmed text.toList) : kept text.toList = some text := by
  rw [kept, Argument.present?, String.ofList_toList, nonEmpty?, trim_eq_self_iff.mpr trimmed]
  cases same : text.toList with
  | nil => exact absurd same nonempty
  | cons c rest => simp [← same]

/-- Nothing is kept of the blanks around a text. -/
theorem kept_trim (text : List Char) : kept (trim text) = kept text := by
  simp only [kept, Argument.present?, String.toList_ofList, nonEmpty?, trim_trim]

end CallSig.Parse
