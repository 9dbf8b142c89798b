import CallSig.Bracket.Scan

/-!
# Stretches of a walk

`walk?` tells where a whole walk ends; no statement about it can name the state
in the middle. `Reach` is its prefix form: a walk reads a stretch of text, with
the rest of the text still to come, and gets from one state to another without
meeting a stop. `walk?_eq_some_iff` says that a walk is a stretch that ends with
nothing pending, in front of a stop or at the end of the text.

A stretch looks past its end only at a `<`: `angleCloses_append` says how far,
and `State.next_eq_of_ne_open` that no other character looks ahead.
-/

namespace CallSig.Bracket

/-- The closers that are due in a state, innermost first. -/
def State.pending : State → List Char
  | .plain pending => pending
  | .quoted _ pending => pending
  | .escaped _ pending => pending

/-- The text is over, or starts with a stop. -/
def Ends (stops : List Char) : List Char → Prop
  | [] => True
  | c :: _ => isStop stops c = true

theorem mem_of_isStop {stops : List Char} {c : Char} (stop : isStop stops c = true) :
    c ∈ stops := by
  simp only [isStop, Bool.and_eq_true, List.contains_iff_mem] at stop
  exact stop.2

/-- A text that ends in front of a stop does so with more stops. -/
theorem Ends.mono {stops others left : List Char} (ends : Ends stops left)
    (sub : ∀ c ∈ stops, c ∈ others) : Ends others left := by
  cases left with
  | nil => trivial
  | cons c rest =>
    simp only [Ends, isStop, Bool.and_eq_true, List.contains_iff_mem] at ends ⊢
    exact ⟨ends.1, sub c ends.2⟩

/-- A walk goes from one state to another over a stretch of text, with `rest`
after it, and meets no stop. -/
inductive Reach (stops : List Char) : State → List Char → List Char → State → Prop
  | refl {state : State} {rest : List Char} : Reach stops state [] rest state
  | step {start stop : State} {c : Char} {taken rest : List Char} :
    start.stopsAt stops c = false →
    Reach stops (start.next stops c (taken ++ rest)) taken rest stop →
    Reach stops start (c :: taken) rest stop

variable {stops : List Char} {start middle stop : State} {taken more rest left : List Char}

theorem Reach.trans (first : Reach stops start taken (more ++ rest) middle)
    (second : Reach stops middle more rest stop) :
    Reach stops start (taken ++ more) rest stop := by
  generalize same : more ++ rest = after at first
  induction first with
  | refl => exact second
  | step goesOn _ ih =>
    subst same
    rw [List.cons_append]
    refine .step goesOn ?_
    rw [List.append_assoc]
    exact ih second rfl

/-- A walk over two texts stands somewhere between them. -/
theorem Reach.split (whole : Reach stops start (taken ++ more) rest stop) :
    ∃ middle,
      Reach stops start taken (more ++ rest) middle ∧ Reach stops middle more rest stop := by
  induction taken generalizing start with
  | nil => exact ⟨start, .refl, whole⟩
  | cons c taken ih =>
    rw [List.cons_append] at whole
    cases whole with
    | step goesOn after =>
      rw [List.append_assoc] at after
      obtain ⟨middle, before, behind⟩ := ih after
      exact ⟨middle, .step goesOn before, behind⟩

theorem Reach.singleton {c : Char} (goesOn : start.stopsAt stops c = false) :
    Reach stops start [c] rest (start.next stops c rest) :=
  .step goesOn .refl

theorem Reach.of_singleton {c : Char} (reach : Reach stops start [c] rest stop) :
    start.stopsAt stops c = false ∧ stop = start.next stops c rest := by
  cases reach with
  | step goesOn after =>
    cases after
    exact ⟨goesOn, rfl⟩

/-- A walk goes on behind a stretch as it would from the state reached. -/
theorem Reach.walk?_append (reach : Reach stops start taken rest stop) :
    walk? stops start (taken ++ rest) =
      (walk? stops stop rest).map fun (more, left) => (taken ++ more, left) := by
  induction reach with
  | refl => simp
  | step goesOn _ ih =>
    rw [List.cons_append, walk?_of_not_stopsAt goesOn, ih, Option.map_map]
    rfl

theorem walk?_of_ends (ends : Ends stops left) :
    walk? stops (.plain []) left = some ([], left) := by
  cases left with
  | nil => simp [walk?]
  | cons c rest => exact walk?_of_stopsAt ends

/-- A walk that succeeds is a stretch that leaves nothing pending. -/
theorem walk?_eq_some_iff {text : List Char} :
    walk? stops start text = some (taken, left) ↔
      text = taken ++ left ∧ Reach stops start taken left (.plain []) ∧ Ends stops left := by
  refine ⟨fun walked => ?_, ?_⟩
  · induction text generalizing start taken with
    | nil =>
      obtain ⟨rfl, rfl, rfl⟩ := walk?_nil walked
      exact ⟨rfl, .refl, trivial⟩
    | cons c rest ih =>
      by_cases stopped : start.stopsAt stops c = true
      · rw [walk?_of_stopsAt stopped] at walked
        simp only [Option.some.injEq, Prod.mk.injEq] at walked
        rcases walked with ⟨rfl, rfl⟩
        unfold State.stopsAt at stopped
        split at stopped
        · exact ⟨rfl, .refl, stopped⟩
        · cases stopped
      · have goesOn : start.stopsAt stops c = false := by simpa using stopped
        rw [walk?_of_not_stopsAt goesOn] at walked
        obtain ⟨⟨takenRest, leftRest⟩, found, same⟩ := Option.map_eq_some_iff.mp walked
        simp only [Prod.mk.injEq] at same
        rcases same with ⟨rfl, rfl⟩
        obtain ⟨rfl, reach, ends⟩ := ih found
        exact ⟨rfl, .step goesOn reach, ends⟩
  · intro parts
    rcases parts with ⟨rfl, reach, ends⟩
    rw [reach.walk?_append, walk?_of_ends ends]
    simp

/-- What is cut is what a walk with nothing due at its ends goes over, up to an end. -/
theorem cut?_eq_some_iff {text : List Char} :
    cut? stops text = some (taken, left) ↔
      text = taken ++ left ∧ Reach stops (.plain []) taken left (.plain []) ∧ Ends stops left :=
  walk?_eq_some_iff

/-! ## The look-ahead -/

/-- Whether the character settles what a `<` before it is. -/
def settles (stops : List Char) (innermost : Option Char) (c : Char) : Bool :=
  c == '>' || match innermost with
    | some closer => c == closer
    | none => isStop stops c

theorem angleCloses_cons (innermost : Option Char) (c : Char) (rest : List Char) :
    angleCloses stops innermost (c :: rest) =
      if settles stops innermost c then c == '>' else angleCloses stops innermost rest := by
  by_cases close : c = '>'
  · simp [angleCloses, settles, close]
  cases innermost with
  | none => cases ends : isStop stops c <;> simp [angleCloses, settles, close, ends]
  | some closer => by_cases same : c = closer <;> simp_all [angleCloses, settles]

/-- The look-ahead goes no further than the first character that settles it. -/
theorem angleCloses_append (innermost : Option Char) (first second : List Char) :
    angleCloses stops innermost (first ++ second) =
      if first.any (settles stops innermost) then angleCloses stops innermost first
      else angleCloses stops innermost second := by
  induction first with
  | nil => simp
  | cons c first ih =>
    rw [List.cons_append, angleCloses_cons, angleCloses_cons, ih, List.any_cons]
    cases settles stops innermost c <;> simp

/-- The look-ahead does not see what comes behind a character that settles it. -/
theorem angleCloses_append_of_mem {innermost : Option Char} {c : Char} {first : List Char}
    (inFirst : c ∈ first) (settled : settles stops innermost c = true) (second : List Char) :
    angleCloses stops innermost (first ++ second) = angleCloses stops innermost first := by
  have found : first.any (settles stops innermost) = true :=
    List.any_eq_true.mpr ⟨c, inFirst, settled⟩
  rw [angleCloses_append, if_pos found]

/-- In front of a stop no `<` is a bracket. -/
theorem angleCloses_of_ends_ne {c : Char} (ends : isStop stops c = true) (notClose : c ≠ '>')
    (rest : List Char) : angleCloses stops none (c :: rest) = false := by
  simp [angleCloses_cons, settles, ends, notClose]

/-! ## What one character changes -/

/-- Outside of quotes a character opens a string, closes what is due, or may make a
closer due. -/
theorem State.next_plain (pending : List Char) (c : Char) (rest : List Char) :
    (State.plain pending).next stops c rest =
      if isQuote c then .quoted c pending
      else if pending.head? = some c then .plain pending.tail
      else .plain ((opens? stops pending c rest).toList ++ pending) := by
  simp only [State.next]
  cases opens? stops pending c rest <;> rfl

/-- A character that is no `<` is read without looking ahead. -/
theorem State.next_eq_of_ne_open {state : State} {c : Char} (notOpen : c ≠ '<')
    (rest rest' : List Char) : state.next stops c rest = state.next stops c rest' := by
  cases state <;> simp [State.next, opens?, notOpen]

/-- A closer that is due is due afterwards too, unless it is the character read. -/
theorem State.mem_pending_next {state : State} {c due : Char} {rest : List Char}
    (isDue : due ∈ state.pending) (other : due ≠ c) : due ∈ (state.next stops c rest).pending := by
  cases state with
  | plain pending =>
    rw [State.next_plain]
    split
    · exact isDue
    split
    · next popped =>
      cases pending with
      | nil => cases popped
      | cons d pending =>
        simp only [List.head?_cons, Option.some.injEq] at popped
        subst popped
        exact (List.mem_cons.mp isDue).resolve_left other
    · exact List.mem_append_right _ isDue
  | quoted quote pending =>
    rw [State.next]
    split
    · exact isDue
    split <;> exact isDue
  | escaped quote pending => exact isDue

/-- What is due at the start of a stretch and not at its end stands in it. -/
theorem Reach.mem_of_pending {due : Char} (reach : Reach stops start taken rest (.plain []))
    (isDue : due ∈ start.pending) : due ∈ taken := by
  generalize atEnd : State.plain [] = stop at reach
  induction reach with
  | refl =>
    subst atEnd
    cases isDue
  | @step _ _ c _ _ _ _ ih =>
    by_cases same : due = c
    · exact same ▸ List.mem_cons_self
    · exact List.mem_cons_of_mem _ (ih (State.mem_pending_next isDue same) atEnd)

end CallSig.Bracket
