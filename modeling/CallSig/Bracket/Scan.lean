import CallSig.Bracket.Matching

/-!
# Walking to a stop past brackets and quotes

`cut?` walks a text up to the first stop character that stands outside every
bracket and every quoted string, so that a comma inside `('_x', '_y')` or
`'Union[int, float]'` is no separator. The walk is a machine that reads one
character at a time: a `State` says which closers are pending, innermost first,
and whether a quoted string is being read. The text may only end, or stop, with
nothing pending; otherwise the walk fails.

A `<` opens a bracket only when it looks like one (`angleCloses`): no other
angle bracket is open and a `>` comes before the place where the enclosing
construct could end. Any other `<` is a comparison and an ordinary character.

Stops are ASCII: a stop character beyond ASCII never matches.

`cut?_eq_some` says that no character is lost, `cut?_stop` that the walk ends at
the end of the text or in front of a stop.
-/

namespace CallSig.Bracket

/-- The bracket that closes an opening one. -/
def closer? (c : Char) : Option Char :=
  if c = '(' then some ')'
  else if c = '[' then some ']'
  else if c = '{' then some '}'
  else if c = '<' then some '>'
  else none

/-- Whether the character starts, and ends, a quoted string. -/
def isQuote (c : Char) : Bool :=
  c = '\x27' || c = '\x22'

/-- Whether the character is a stop: only ASCII characters can be. -/
def isStop (stops : List Char) (c : Char) : Bool :=
  c.toNat < 128 && stops.contains c

/-- Where a walk stands: between tokens, inside a quoted string, or right after
a backslash in one. `pending` holds the closers that are due, innermost first. -/
inductive State where
  | plain (pending : List Char)
  | quoted (quote : Char) (pending : List Char)
  | escaped (quote : Char) (pending : List Char)
  deriving Repr, DecidableEq

/-- Whether a `>` comes in `rest` before the end of the construct around it,
which is the innermost pending closer, or a stop when nothing is pending. -/
def angleCloses (stops : List Char) (innermost : Option Char) : List Char → Bool
  | [] => false
  | c :: rest =>
    if c = '>' then true
    else if (match innermost with | some closer => c == closer | none => isStop stops c) then false
    else angleCloses stops innermost rest

/-- The closer that becomes due at `c`, when `c` opens a bracket with `rest`
after it. -/
def opens? (stops pending : List Char) (c : Char) (rest : List Char) : Option Char :=
  if c = '<' then
    if !pending.contains '>' && angleCloses stops pending.head? rest then some '>' else none
  else closer? c

/-- The state after reading the character `c`, with `rest` still to come. -/
def State.next (stops : List Char) (c : Char) (rest : List Char) : State → State
  | .plain pending =>
    if isQuote c then .quoted c pending
    else if pending.head? = some c then .plain pending.tail
    else
      match opens? stops pending c rest with
      | some closer => .plain (closer :: pending)
      | none => .plain pending
  | .quoted quote pending =>
    if c = '\\' then .escaped quote pending
    else if c = quote then .plain pending
    else .quoted quote pending
  | .escaped quote pending => .quoted quote pending

/-- Whether the walk ends in front of the character `c`. -/
def State.stopsAt (stops : List Char) (c : Char) : State → Bool
  | .plain [] => isStop stops c
  | _ => false

/-- The part of the text that is walked over from a state, and the part from
the stop on; nothing when the text ends inside a bracket or a quoted string. -/
def walk? (stops : List Char) : State → List Char → Option (List Char × List Char)
  | state, [] => if state = .plain [] then some ([], []) else none
  | state, c :: rest =>
    if state.stopsAt stops c then some ([], c :: rest)
    else (walk? stops (state.next stops c rest) rest).map fun (taken, left) => (c :: taken, left)

/-- The text up to the first stop outside brackets and quotes, and the text from
it on. -/
def cut? (stops text : List Char) : Option (List Char × List Char) :=
  walk? stops (.plain []) text

/-- The place of the first stop outside brackets and quotes, or of the end. -/
def scanTo? (text : String) (stops : List Char) : Option Nat :=
  (cut? stops text.toList).map fun (taken, _) => utf8Length taken

/-- The whole bracket that a text starts with, read as one construct, and what
follows it. -/
def skipGroup? : List Char → Option (List Char × List Char)
  | [] => none
  | c :: rest =>
    match closer? c with
    | none => none
    | some closer =>
      match cut? [closer] rest with
      | some (inner, d :: after) => some (c :: inner ++ [d], after)
      | _ => none

/-! ## What a walk returns -/

theorem walk?_nil {stops : List Char} {state : State} {taken left : List Char}
    (walked : walk? stops state [] = some (taken, left)) :
    state = .plain [] ∧ taken = [] ∧ left = [] := by
  unfold walk? at walked
  split at walked
  · next done =>
    simp only [Option.some.injEq, Prod.mk.injEq] at walked
    exact ⟨done, walked.1.symm, walked.2.symm⟩
  · simp at walked

theorem walk?_of_stopsAt {stops : List Char} {state : State} {c : Char} {rest : List Char}
    (stop : state.stopsAt stops c = true) :
    walk? stops state (c :: rest) = some ([], c :: rest) := by
  simp [walk?, stop]

theorem walk?_of_not_stopsAt {stops : List Char} {state : State} {c : Char} {rest : List Char}
    (goesOn : state.stopsAt stops c = false) :
    walk? stops state (c :: rest) =
      (walk? stops (state.next stops c rest) rest).map
        fun (taken, left) => (c :: taken, left) := by
  simp [walk?, goesOn]

/-- What is walked over and what is left make up the text. -/
theorem walk?_eq_some {stops : List Char} {state : State} {text taken left : List Char}
    (walked : walk? stops state text = some (taken, left)) : text = taken ++ left := by
  induction text generalizing state taken with
  | nil =>
    obtain ⟨_, rfl, rfl⟩ := walk?_nil walked
    rfl
  | cons c rest ih =>
    by_cases stop : state.stopsAt stops c = true
    · rw [walk?_of_stopsAt stop] at walked
      simp only [Option.some.injEq, Prod.mk.injEq] at walked
      simp [← walked.1, ← walked.2]
    · rw [walk?_of_not_stopsAt (by simpa using stop)] at walked
      obtain ⟨⟨takenRest, leftRest⟩, found, same⟩ := Option.map_eq_some_iff.mp walked
      simp only [Prod.mk.injEq] at same
      obtain ⟨rfl, rfl⟩ := same
      simp [ih found]

theorem cut?_eq_some {stops text taken left : List Char}
    (found : cut? stops text = some (taken, left)) : text = taken ++ left :=
  walk?_eq_some found

/-- A walk ends at the end of the text or in front of a stop. -/
theorem walk?_stop {stops : List Char} {state : State} {text taken left : List Char}
    (walked : walk? stops state text = some (taken, left)) :
    left = [] ∨ ∃ c rest, left = c :: rest ∧ isStop stops c = true := by
  induction text generalizing state taken with
  | nil => exact .inl (walk?_nil walked).2.2
  | cons c rest ih =>
    by_cases stop : state.stopsAt stops c = true
    · rw [walk?_of_stopsAt stop] at walked
      simp only [Option.some.injEq, Prod.mk.injEq] at walked
      refine .inr ⟨c, rest, walked.2.symm, ?_⟩
      unfold State.stopsAt at stop
      split at stop
      · exact stop
      · simp at stop
    · rw [walk?_of_not_stopsAt (by simpa using stop)] at walked
      obtain ⟨⟨takenRest, leftRest⟩, found, same⟩ := Option.map_eq_some_iff.mp walked
      simp only [Prod.mk.injEq] at same
      obtain ⟨rfl, rfl⟩ := same
      exact ih found

theorem cut?_stop {stops text taken left : List Char}
    (found : cut? stops text = some (taken, left)) :
    left = [] ∨ ∃ c rest, left = c :: rest ∧ isStop stops c = true :=
  walk?_stop found

theorem cut?_length_le {stops text taken left : List Char}
    (found : cut? stops text = some (taken, left)) : left.length ≤ text.length := by
  simp [cut?_eq_some found]

theorem skipGroup?_eq_some {text taken after : List Char}
    (found : skipGroup? text = some (taken, after)) : text = taken ++ after := by
  unfold skipGroup? at found
  split at found
  · simp at found
  · split at found
    · simp at found
    · split at found
      · next inner d rest cutRest =>
        simp only [Option.some.injEq, Prod.mk.injEq] at found
        obtain ⟨rfl, rfl⟩ := found
        simp [cut?_eq_some cutRest]
      · simp at found

theorem skipGroup?_length_lt {text taken after : List Char}
    (found : skipGroup? text = some (taken, after)) : after.length < text.length := by
  have whole := skipGroup?_eq_some found
  unfold skipGroup? at found
  split at found
  · simp at found
  · split at found
    · simp at found
    · split at found
      · next c rest closer _ inner d tail cutRest =>
        simp only [Option.some.injEq, Prod.mk.injEq] at found
        obtain ⟨rfl, rfl⟩ := found
        have lengths := congrArg List.length whole
        simp only [List.length_append, List.length_cons] at lengths ⊢
        omega
      · simp at found

end CallSig.Bracket
