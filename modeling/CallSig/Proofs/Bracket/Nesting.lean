import CallSig.Proofs.Bracket.Locality

/-!
# Walking through a bracket

A walk inside a bracket takes every character as a walk does that has the closer
of the bracket as its only stop (`State.next_below`). So a walk that meets an
opener walks over the whole bracket as `skipGroup?` reads it and goes on behind
it, or fails where `skipGroup?` does (`cut?_opener`).

`skipGroup?_eq_some_iff` says what is read as one bracket, and
`skipGroup?_append` that it does not depend on what follows.
-/

namespace CallSig.Bracket

variable {stops : List Char} {taken left : List Char}

/-- The same state with further closers due, below the ones it has. -/
def State.below (due : List Char) : State → State
  | .plain pending => .plain (pending ++ due)
  | .quoted quote pending => .quoted quote (pending ++ due)
  | .escaped quote pending => .escaped quote (pending ++ due)

theorem isStop_singleton {closer : Char} (ascii : closer.toNat < 128) (c : Char) :
    isStop [closer] c = (c == closer) := by
  by_cases same : c = closer
  · simp [isStop, same, ascii]
  · simp [isStop, same]

/-- To the look-ahead a closer that is due below all others is what it is as a stop. -/
theorem angleCloses_below {closer : Char} (ascii : closer.toNat < 128)
    (stops pending rest : List Char) :
    angleCloses stops (pending ++ [closer]).head? rest =
      angleCloses [closer] pending.head? rest := by
  induction rest with
  | nil => rfl
  | cons c rest ih =>
    rw [angleCloses_cons, angleCloses_cons, ih]
    cases pending with
    | nil => simp [settles, isStop_singleton ascii]
    | cons due pending => simp [settles]

/-- A walk inside a bracket takes a character as a walk does that has the closer
of the bracket as its only stop. -/
theorem State.next_below {closer c : Char} {rest : List Char} {state : State}
    (ascii : closer.toNat < 128) (noAngle : closer ≠ '>')
    (goesOn : state.stopsAt [closer] c = false) :
    (state.below [closer]).next stops c rest = (state.next [closer] c rest).below [closer] := by
  cases state with
  | plain pending =>
    rw [State.below, State.next_plain, State.next_plain]
    split
    · rfl
    have sameOpens :
        opens? stops (pending ++ [closer]) c rest = opens? [closer] pending c rest := by
      have sameNested : (pending ++ [closer]).contains '>' = pending.contains '>' := by
        simp [noAngle.symm]
      rw [opens?, opens?, angleCloses_below ascii stops pending rest, sameNested]
    cases pending with
    | nil =>
      have notCloser : ¬closer = c := by
        intro same
        subst same
        simp [State.stopsAt, isStop_singleton ascii] at goesOn
      rw [if_neg (by simpa using notCloser), if_neg (by simp), sameOpens]
      simp [State.below]
    | cons due pending =>
      rw [sameOpens]
      by_cases popped : due = c <;> simp [State.below, popped]
  | quoted quote pending =>
    simp only [State.below, State.next]
    split
    · rfl
    split <;> rfl
  | escaped quote pending => rfl

/-- A walk inside a bracket is a walk to its closer, and a walk from there. -/
theorem walk?_below {closer : Char} {state : State} {text : List Char}
    (ascii : closer.toNat < 128) (noAngle : closer ≠ '>') (noQuote : isQuote closer = false) :
    walk? stops (state.below [closer]) text =
      match walk? [closer] state text with
      | some (inner, c :: after) =>
        (walk? stops (.plain []) after).map fun (taken, left) => (inner ++ c :: taken, left)
      | _ => none := by
  induction text generalizing state with
  | nil =>
    have pending : state.below [closer] ≠ .plain [] := by cases state <;> simp [State.below]
    rw [walk?, if_neg pending, walk?]
    split <;> simp_all
  | cons c rest ih =>
    have inside : (state.below [closer]).stopsAt stops c = false := by
      cases state <;> simp [State.below, State.stopsAt]
    rw [walk?_of_not_stopsAt inside]
    cases stopped : state.stopsAt [closer] c with
    | true =>
      rw [walk?_of_stopsAt stopped]
      unfold State.stopsAt at stopped
      split at stopped
      · rw [isStop_singleton ascii, beq_iff_eq] at stopped
        subst stopped
        simp [State.below, State.next, noQuote]
      · cases stopped
    | false =>
      rw [walk?_of_not_stopsAt stopped, State.next_below ascii noAngle stopped, ih]
      rcases walk? [closer] (state.next [closer] c rest) rest with _ | ⟨inner, _ | ⟨d, after⟩⟩
      · rfl
      · rfl
      · simp [Function.comp_def]

/-! ## A whole bracket -/

theorem ascii_of_closer? {opener closer : Char} (closes : closer? opener = some closer) :
    closer.toNat < 128 := by
  rcases closer?_eq_some closes with ⟨-, rfl⟩ | ⟨-, rfl⟩ | ⟨-, rfl⟩ | ⟨-, rfl⟩ <;> decide

theorem isQuote_of_closer? {opener closer : Char} (closes : closer? opener = some closer) :
    isQuote opener = false ∧ isQuote closer = false := by
  rcases closer?_eq_some closes with ⟨rfl, rfl⟩ | ⟨rfl, rfl⟩ | ⟨rfl, rfl⟩ | ⟨rfl, rfl⟩ <;> decide

/-- Only a `<` is closed by a `>`. -/
theorem closer?_ne_angle {opener closer : Char} (closes : closer? opener = some closer)
    (notAngle : opener ≠ '<') : closer ≠ '>' := by
  rcases closer?_eq_some closes with ⟨rfl, rfl⟩ | ⟨rfl, rfl⟩ | ⟨rfl, rfl⟩ | ⟨rfl, rfl⟩
  · decide
  · decide
  · decide
  · exact absurd rfl notAngle

/-- One bracket is an opener, a text that is walked over up to the closer, and
the closer. -/
theorem skipGroup?_eq_some_iff {text : List Char} :
    skipGroup? text = some (taken, left) ↔
      ∃ opener closer inner, closer? opener = some closer ∧ taken = opener :: inner ++ [closer] ∧
        text = taken ++ left ∧
        cut? [closer] (inner ++ closer :: left) = some (inner, closer :: left) := by
  constructor
  · intro skipped
    have whole := skipGroup?_eq_some skipped
    unfold skipGroup? at skipped
    split at skipped
    · cases skipped
    next opener rest =>
    split at skipped
    · cases skipped
    next closer closes =>
    split at skipped
    next inner c after found =>
      simp only [Option.some.injEq, Prod.mk.injEq] at skipped
      rcases skipped with ⟨rfl, rfl⟩
      obtain ⟨same, -, ends⟩ := cut?_eq_some_iff.mp found
      rw [Ends, isStop_singleton (ascii_of_closer? closes), beq_iff_eq] at ends
      subst ends
      exact ⟨opener, c, inner, closes, rfl, whole, same ▸ found⟩
    · cases skipped
  · intro parts
    rcases parts with ⟨opener, closer, inner, closes, rfl, rfl, found⟩
    simp [skipGroup?, closes, found]

/-- One bracket is the same bracket in front of any text. -/
theorem skipGroup?_append {text : List Char} (skipped : skipGroup? text = some (taken, left))
    (other : List Char) : skipGroup? (taken ++ other) = some (taken, other) := by
  obtain ⟨opener, closer, inner, closes, same, -, found⟩ := skipGroup?_eq_some_iff.mp skipped
  exact skipGroup?_eq_some_iff.mpr
    ⟨opener, closer, inner, closes, same, rfl, cut?_replaceRest found⟩

/-- A walk that meets an opener reads the whole bracket and goes on behind it. -/
theorem cut?_opener {opener closer : Char} (closes : closer? opener = some closer)
    (notAngle : opener ≠ '<') (noStop : isStop stops opener = false) (rest : List Char) :
    cut? stops (opener :: rest) =
      (skipGroup? (opener :: rest)).bind fun (group, after) =>
        (cut? stops after).map fun (taken, left) => (group ++ taken, left) := by
  obtain ⟨openerNoQuote, closerNoQuote⟩ := isQuote_of_closer? closes
  have entered : (State.plain []).next stops opener rest = (State.plain []).below [closer] := by
    simp [State.next_plain, openerNoQuote, opens?, notAngle, closes, State.below]
  have goesOn : (State.plain []).stopsAt stops opener = false := noStop
  rw [cut?, walk?_of_not_stopsAt goesOn, entered, walk?_below (ascii_of_closer? closes)
    (closer?_ne_angle closes notAngle) closerNoQuote]
  simp only [skipGroup?, closes, cut?]
  rcases walk? [closer] (.plain []) rest with _ | ⟨inner, _ | ⟨c, after⟩⟩
  · rfl
  · rfl
  · simp [Function.comp_def]

end CallSig.Bracket
