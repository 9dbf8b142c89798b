import CallSig.Proofs.Bracket.Matching

/-!
# Where the counts of a bracket pair meet

`splitClose?` keeps a depth and returns where it would fall below zero. What it finds can be
told without the depth, by the openers and closers in the beginnings of the text: the content
of a bracket closes as many brackets as are open in it, and no beginning of it closes more
(`Closing`). `splitClose?_eq_some_iff` says that this determines the content, and
`splitClose?_eq_none_iff` that where there is no close no beginning of the text closes more
than is open.

Both go by one character at a time, and `exists_step` says once what a character does: it
changes the depth of the text behind it as it changes the counts.
-/

namespace CallSig.Bracket

variable {opener closer c : Char} {depth next : Nat} {text rest inner after : List Char}

/-- No beginning of the text closes more brackets than are open there, `depth` of them in
front of the text. -/
def NotBelow (opener closer : Char) (depth : Nat) (text : List Char) : Prop :=
  ∀ before, before <+: text → before.count closer ≤ before.count opener + depth

/-- The text closes the brackets that are open, the `depth` ones in front of it included, and
no beginning of it closes more. -/
structure Closing (opener closer : Char) (depth : Nat) (text : List Char) : Prop where
  even : text.count closer = text.count opener + depth
  notBelow : NotBelow opener closer depth text

/-! ## One character -/

theorem count_cons_eq (c d : Char) (text : List Char) :
    (c :: text).count d = [c].count d + text.count d :=
  @List.count_append _ _ d [c] text

theorem notBelow_nil : NotBelow opener closer depth [] := by
  intro before isBefore
  rw [List.prefix_nil.mp isBefore]
  exact Nat.zero_le _

theorem closing_nil_iff : Closing opener closer depth [] ↔ depth = 0 := by
  constructor
  · intro closing
    have even := closing.even
    simp only [List.count_nil] at even
    omega
  · rintro rfl
    exact ⟨rfl, notBelow_nil⟩

theorem not_notBelow_closer (other : closer ≠ opener) :
    ¬NotBelow opener closer 0 (closer :: rest) := by
  intro notBelow
  have first := notBelow [closer] (List.prefix_append [closer] rest)
  rw [List.count_singleton_self, List.count_singleton, if_neg (by simpa using other)] at first
  omega

/-- A character changes the depth of the text behind it as it changes the counts. -/
theorem notBelow_cons_iff (step : [c].count opener + depth = [c].count closer + next) :
    NotBelow opener closer depth (c :: rest) ↔ NotBelow opener closer next rest := by
  constructor
  · intro notBelow before isBefore
    have longer := notBelow (c :: before) (List.cons_prefix_cons.mpr ⟨rfl, isBefore⟩)
    rw [count_cons_eq c closer, count_cons_eq c opener] at longer
    omega
  · intro notBelow before isBefore
    rcases List.prefix_cons_iff.mp isBefore with rfl | ⟨tail, rfl, isTail⟩
    · exact Nat.zero_le _
    · have shorter := notBelow tail isTail
      rw [count_cons_eq c closer, count_cons_eq c opener]
      omega

/-- The rest closes what is open behind the first character. -/
theorem closing_cons_iff (step : [c].count opener + depth = [c].count closer + next) :
    Closing opener closer depth (c :: rest) ↔ Closing opener closer next rest := by
  have sameEven : (c :: rest).count closer = (c :: rest).count opener + depth ↔
      rest.count closer = rest.count opener + next := by
    rw [count_cons_eq c closer, count_cons_eq c opener]
    omega
  constructor
  · intro closing
    exact ⟨sameEven.mp closing.even, (notBelow_cons_iff step).mp closing.notBelow⟩
  · intro closing
    exact ⟨sameEven.mpr closing.even, (notBelow_cons_iff step).mpr closing.notBelow⟩

/-- A character that is not the close looked for is gone past, at the depth that the counts
give. -/
theorem exists_step (other : closer ≠ opener) (goesOn : ¬(c = closer ∧ depth = 0))
    (rest : List Char) :
    ∃ next, [c].count opener + depth = [c].count closer + next ∧
      splitClose? opener closer depth (c :: rest) =
        (splitClose? opener closer next rest).map fun (inner, after) => (c :: inner, after) := by
  by_cases opens : c = opener
  · subst opens
    refine ⟨depth + 1, ?_, splitClose?_opener depth rest⟩
    simp [other.symm, Nat.add_comm]
  by_cases closes : c = closer
  · subst closes
    cases depth with
    | zero => exact absurd ⟨rfl, rfl⟩ goesOn
    | succ depth =>
      refine ⟨depth, ?_, splitClose?_closer_succ other depth rest⟩
      simp [opens, Nat.add_comm]
  · refine ⟨depth, ?_, splitClose?_other opens closes depth rest⟩
    simp [opens, closes]

/-! ## The whole text -/

/-- The close that is found is the one in front of which the counts say that all is closed. -/
theorem splitClose?_eq_some_iff (other : closer ≠ opener) :
    splitClose? opener closer depth text = some (inner, after) ↔
      text = inner ++ closer :: after ∧ Closing opener closer depth inner := by
  induction text generalizing depth inner with
  | nil => simp [splitClose?]
  | cons c rest ih =>
    by_cases ends : c = closer ∧ depth = 0
    · obtain ⟨rfl, rfl⟩ := ends
      rw [splitClose?_closer_zero other]
      constructor
      · rintro ⟨⟩
        exact ⟨rfl, closing_nil_iff.mpr rfl⟩
      · rintro ⟨whole, closing⟩
        cases inner with
        | nil =>
          cases whole
          rfl
        | cons d inner =>
          obtain ⟨rfl, -⟩ := List.cons.inj whole
          exact absurd closing.notBelow (not_notBelow_closer other)
    · obtain ⟨next, step, split⟩ := exists_step other ends rest
      rw [split, Option.map_eq_some_iff]
      constructor
      · rintro ⟨⟨innerRest, afterRest⟩, found, same⟩
        simp only [Prod.mk.injEq] at same
        rcases same with ⟨rfl, rfl⟩
        obtain ⟨rfl, closing⟩ := ih.mp found
        exact ⟨rfl, (closing_cons_iff step).mpr closing⟩
      · rintro ⟨whole, closing⟩
        cases inner with
        | nil =>
          obtain ⟨rfl, -⟩ := List.cons.inj whole
          exact absurd ⟨rfl, closing_nil_iff.mp closing⟩ ends
        | cons d inner =>
          obtain ⟨rfl, rfl⟩ := List.cons.inj whole
          exact ⟨(inner, after), ih.mpr ⟨rfl, (closing_cons_iff step).mp closing⟩, rfl⟩

/-- There is no close just where no beginning of the text closes more than is open. -/
theorem splitClose?_eq_none_iff (other : closer ≠ opener) :
    splitClose? opener closer depth text = none ↔ NotBelow opener closer depth text := by
  induction text generalizing depth with
  | nil => exact iff_of_true rfl notBelow_nil
  | cons c rest ih =>
    by_cases ends : c = closer ∧ depth = 0
    · obtain ⟨rfl, rfl⟩ := ends
      rw [splitClose?_closer_zero other]
      exact iff_of_false (Option.some_ne_none _) (not_notBelow_closer other)
    · obtain ⟨next, step, split⟩ := exists_step other ends rest
      rw [split, Option.map_eq_none_iff, ih, notBelow_cons_iff step]

/-- A bracket that is closed by its own opener is never closed. -/
theorem splitClose?_same (c : Char) (depth : Nat) (text : List Char) :
    splitClose? c c depth text = none := by
  induction text generalizing depth with
  | nil => rfl
  | cons d rest ih =>
    by_cases same : d = c
    · rw [same, splitClose?_opener, ih, Option.map_none]
    · rw [splitClose?_other same same, ih, Option.map_none]

/-! ## From the opener on -/

/-- When both brackets of a pair are the same character nothing is ever closed. -/
theorem group?_same (c : Char) (text : List Char) : group? c c text = none := by
  unfold group?
  split
  · rfl
  · rw [splitClose?_same, ite_self]

/-- The content of the bracket in front of a text closes what is open in it. -/
theorem group?_eq_some_iff (other : closer ≠ opener) :
    group? opener closer text = some (inner, after) ↔
      text = opener :: (inner ++ closer :: after) ∧ Closing opener closer 0 inner := by
  constructor
  · intro found
    have whole := group?_eq_some found
    subst whole
    rw [group?, if_pos rfl, splitClose?_eq_some_iff other] at found
    exact ⟨rfl, found.2⟩
  · rintro ⟨rfl, closing⟩
    rw [group?, if_pos rfl, splitClose?_eq_some_iff other]
    exact ⟨rfl, closing⟩

/-- From an opener on, a beginning of the text has more openers than closers as long as what
stands behind the opener closes no more than is open. -/
theorem NotBelow.count_lt (notBelow : NotBelow opener closer 0 text) (other : closer ≠ opener)
    {before : List Char} (nonempty : before ≠ []) (isBefore : before <+: opener :: text) :
    before.count closer < before.count opener := by
  rcases List.prefix_cons_iff.mp isBefore with rfl | ⟨tail, rfl, isTail⟩
  · exact absurd rfl nonempty
  · have le := notBelow tail isTail
    rw [List.count_cons_self, List.count_cons_of_ne other.symm]
    omega

/-- With its closer the bracket has as many openers as closers. -/
theorem Closing.count_eq (closing : Closing opener closer 0 inner) (other : closer ≠ opener) :
    (opener :: inner ++ [closer]).count opener = (opener :: inner ++ [closer]).count closer := by
  have even := closing.even
  rw [List.count_append, List.count_append, List.count_cons_self, List.count_cons_of_ne other.symm,
    List.count_singleton_self, List.count_singleton, if_neg (by simpa using other)]
  omega

end CallSig.Bracket
