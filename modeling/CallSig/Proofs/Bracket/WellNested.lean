import CallSig.Proofs.Bracket.Comparison

/-!
# Well-nested texts

A well-nested text has no quote and no `<`, and its brackets are closed in the
order in which they open. A `>` is a character like any other in it, since nothing
waits for one.

Both ways of matching brackets go past a well-nested text: the walk that keeps the
closers that are due (`WellNested.passes`), and the count of one pair
(`WellNested.neutral`).
-/

namespace CallSig.Bracket

/-- A text without quotes and without `<` whose brackets are closed in the order in
which they open. -/
inductive WellNested : List Char → Prop
  | nil : WellNested []
  | char {c : Char} {rest : List Char} : isQuote c = false → isBracket c = false → c ≠ '<' →
    WellNested rest → WellNested (c :: rest)
  | group {opener closer : Char} {inner rest : List Char} : closer? opener = some closer →
    opener ≠ '<' → WellNested inner → WellNested rest →
    WellNested (opener :: (inner ++ closer :: rest))

variable {stops pending text rest inner : List Char} {c opener closer : Char}

/-- A character that neither quotes nor is a bracket is gone past. -/
theorem Passes.other (noStop : (State.plain pending).stopsAt stops c = false)
    (wellFormed : (State.plain pending).WellFormed) (unnested : '>' ∉ pending)
    (noQuote : isQuote c = false) (noBracket : isBracket c = false) (notAngle : c ≠ '<') :
    Passes stops pending [c] := by
  intro rest
  have notDue : pending.head? ≠ some c := by
    intro due
    have inside := List.mem_of_head? due
    have notClose : c ≠ '>' := fun same => unnested (same ▸ inside)
    rw [(closes_of_isCloser (wellFormed c inside) notClose).isBracket] at noBracket
    cases noBracket
  have unopened : opens? stops pending c rest = none := by
    rw [opens?, if_neg notAngle, closer?_of_not_isBracket noBracket notAngle]
  have single : Reach stops (.plain pending) [c] rest _ := .singleton noStop
  rwa [State.next_other noQuote notDue unopened] at single

/-- A walk goes past a well-nested text inside a bracket, and outside of every
bracket when its stops close brackets. -/
theorem WellNested.passes (nested : WellNested text)
    (stopsClose : pending = [] → ∀ c ∈ stops, Closes c)
    (wellFormed : (State.plain pending).WellFormed) (unnested : '>' ∉ pending) :
    Passes stops pending text := by
  induction nested generalizing pending with
  | nil => exact .nil
  | @char c rest noQuote noBracket notAngle _ ih =>
    have noStop : (State.plain pending).stopsAt stops c = false :=
      State.stopsAt_of_pending fun empty isStop =>
        absurd (stopsClose empty c isStop).isBracket (by simp [noBracket])
    exact (Passes.other noStop wellFormed unnested noQuote noBracket notAngle).append
      (ih stopsClose wellFormed unnested)
  | @group opener closer inner rest closes notAngle _ _ ihInner ihRest =>
    have noStop : (State.plain pending).stopsAt stops opener = false :=
      State.stopsAt_of_pending fun empty isStop =>
        absurd (stopsClose empty opener isStop).closer? (by simp [closes])
    have unnestedInside : '>' ∉ closer :: pending := by
      rw [List.mem_cons, not_or]
      exact ⟨(closer?_ne_angle closes notAngle).symm, unnested⟩
    have inside : Passes stops (closer :: pending) inner :=
      ihInner (fun empty => nomatch empty) (wellFormed.cons closes) unnestedInside
    have bracket := (Passes.group noStop wellFormed closes notAngle inside).append
      (ihRest stopsClose wellFormed unnested)
    simpa using bracket

/-- A well-nested text in brackets is one bracket. -/
theorem WellNested.skipGroup? (nested : WellNested inner) (closes : closer? opener = some closer)
    (notAngle : opener ≠ '<') (rest : List Char) :
    Bracket.skipGroup? (opener :: (inner ++ closer :: rest)) =
      some (opener :: inner ++ [closer], rest) := by
  have stopsClose : ∀ c ∈ [closer], Closes c := by
    intro c inside
    rw [List.mem_singleton.mp inside]
    exact ⟨opener, closes, notAngle⟩
  exact skipGroup?_of_passes closes
    (nested.passes (fun _ => stopsClose) State.wellFormed_initial List.not_mem_nil) rest

theorem isStructural_of_not_isBracket (noBracket : isBracket c = false) :
    isStructural c = false := by
  simp only [isBracket, Bool.or_eq_false_iff] at noBracket
  simp only [isStructural, noBracket.1.1, Bool.or_self]

/-- The count of one pair goes past a well-nested text at any depth. -/
theorem WellNested.neutral {first last : Char} (nested : WellNested text)
    (pair : StructuralPair first last) : Neutral first last text := by
  induction nested with
  | nil => exact .nil
  | char _ noBracket _ _ ih =>
    obtain ⟨notFirst, notLast⟩ :=
      pair.ne_of_not_structural (isStructural_of_not_isBracket noBracket)
    exact (Neutral.singleton notFirst notLast).append ih
  | @group opener closer inner rest closes _ _ _ ihInner ihRest =>
    have whole := (pair.neutral_bracket closes ihInner).append ihRest
    simpa using whole

end CallSig.Bracket
