import Mathlib.Data.Bool.AllAny
import CallSig.Proofs.Bracket.Reach
import CallSig.Proofs.Text.Trim

/-!
# What a walk depends on

What comes after a stretch of a walk matters only to the look-ahead at a `<`,
and a stretch that leaves nothing pending settles its own look-aheads: the `>`
of every repr it opens and the closer that bounds every other look-ahead stand
in it. So such a stretch is the same in front of another text
(`Reach.replaceRest`), what was walked over is walked over to its end when it
stands alone (`cut?_taken`) and up to any stop but `>` when one comes behind it
(`cut?_append_ends`), and taking the blanks off its ends does not change that
(`cut?_trim`).
-/

namespace CallSig.Bracket

open CallSig.Text

variable {stops : List Char} {start stop : State} {taken rest left : List Char}

/-- A `<` is the one character that is read by what comes behind it. -/
theorem State.next_open (pending rest : List Char) :
    (State.plain pending).next stops '<' rest =
      if pending.head? = some '<' then .plain pending.tail
      else if '>' ∉ pending ∧ angleCloses stops pending.head? rest = true then
        .plain ('>' :: pending)
      else .plain pending := by
  rw [State.next_plain, if_neg (by decide)]
  split
  · rfl
  by_cases opened : '>' ∉ pending ∧ angleCloses stops pending.head? rest = true
  · simp [opens?, opened]
  · have closed : opens? stops pending '<' rest = none := by
      simp only [opens?, if_pos, ite_eq_right_iff]
      intro both
      exact absurd (by simpa using both) opened
    rw [closed, if_neg opened]
    rfl

/-- A `<` is taken alike in front of two texts when the stretch after it leaves
nothing pending: its `>` and the closer that bounds the look-ahead both stand in
the stretch. -/
theorem Reach.next_open_replaceRest {pending rest' : List Char}
    (after : Reach stops ((State.plain pending).next stops '<' (taken ++ rest)) taken rest
      (.plain []))
    (look : angleCloses stops none rest = false → angleCloses stops none rest' = false) :
    (State.plain pending).next stops '<' (taken ++ rest) =
      (State.plain pending).next stops '<' (taken ++ rest') := by
  rw [State.next_open] at after ⊢
  rw [State.next_open]
  by_cases popped : pending.head? = some '<'
  · rw [if_pos popped, if_pos popped]
  by_cases nested : '>' ∈ pending
  · simp [nested]
  rw [if_neg popped] at after
  suffices same : angleCloses stops pending.head? (taken ++ rest) =
      angleCloses stops pending.head? (taken ++ rest') by rw [same]
  cases opened : angleCloses stops pending.head? (taken ++ rest) with
  | true =>
    rw [if_pos ⟨nested, opened⟩] at after
    have inside : '>' ∈ taken := after.mem_of_pending List.mem_cons_self
    have settled : settles stops pending.head? '>' = true := by simp [settles]
    rw [angleCloses_append_of_mem inside settled] at opened ⊢
    exact opened.symm
  | false =>
    rw [if_neg (by simp [opened])] at after
    cases pending with
    | cons due pending =>
      have inside : due ∈ taken := after.mem_of_pending List.mem_cons_self
      have settled : settles stops (some due) due = true := by simp [settles]
      rw [List.head?_cons, angleCloses_append_of_mem inside settled] at opened ⊢
      exact opened.symm
    | nil =>
      rw [List.head?_nil, angleCloses_append] at opened ⊢
      split at opened
      · next found => rw [if_pos found, opened]
      · next unsettled => rw [if_neg unsettled, look opened]

/-- A stretch that leaves nothing pending is the same in front of another text,
unless the look-ahead finds a `>` there that it did not find before. -/
theorem Reach.replaceRest {rest' : List Char} (reach : Reach stops start taken rest (.plain []))
    (look : angleCloses stops none rest = false → angleCloses stops none rest' = false) :
    Reach stops start taken rest' (.plain []) := by
  generalize atEnd : State.plain [] = stop at reach
  induction reach with
  | refl => exact .refl
  | @step start stop c taken rest goesOn after ih =>
    subst atEnd
    suffices agree : start.next stops c (taken ++ rest) = start.next stops c (taken ++ rest') from
      .step goesOn (agree ▸ ih look rfl)
    by_cases angle : c = '<'
    · subst angle
      cases start with
      | plain pending => exact after.next_open_replaceRest look
      | quoted quote pending => rfl
      | escaped quote pending => rfl
    · exact State.next_eq_of_ne_open angle _ _

/-- A walk that ends in front of a stop ends there whatever follows the stop. -/
theorem cut?_replaceRest {c : Char} {other : List Char}
    (found : cut? stops (taken ++ c :: rest) = some (taken, c :: rest)) :
    cut? stops (taken ++ c :: other) = some (taken, c :: other) := by
  obtain ⟨-, reach, ends⟩ := cut?_eq_some_iff.mp found
  refine cut?_eq_some_iff.mpr ⟨rfl, reach.replaceRest fun unopened => ?_, ends⟩
  by_cases close : c = '>'
  · simp [close, angleCloses] at unopened
  · exact angleCloses_of_ends_ne ends close other

/-- A walk over what was walked over ends at its end. -/
theorem cut?_taken {text : List Char} (found : cut? stops text = some (taken, left)) :
    cut? stops taken = some (taken, []) := by
  obtain ⟨-, reach, -⟩ := cut?_eq_some_iff.mp found
  exact cut?_eq_some_iff.mpr
    ⟨(List.append_nil _).symm, reach.replaceRest fun _ => rfl, trivial⟩

/-- What is walked over to its end is walked over up to a stop that comes behind it.
Only a `>` there could tell a `<` that it opens. -/
theorem cut?_append_ends (whole : cut? stops taken = some (taken, [])) (ends : Ends stops left)
    (notClose : left.head? ≠ some '>') : cut? stops (taken ++ left) = some (taken, left) := by
  obtain ⟨-, reach, -⟩ := cut?_eq_some_iff.mp whole
  refine cut?_eq_some_iff.mpr ⟨rfl, reach.replaceRest fun _ => ?_, ends⟩
  cases left with
  | nil => rfl
  | cons c rest => exact angleCloses_of_ends_ne ends (by simpa using notClose) rest

/-! ## Blanks at the ends of a stretch -/

/-- Whether the character closes a bracket. -/
def isCloser (c : Char) : Bool :=
  c = ')' || c = ']' || c = '}' || c = '>'

/-- A state that a walk can get to: closers are due, and a quote ends a quoted
text. -/
def State.WellFormed : State → Prop
  | .plain pending => ∀ due ∈ pending, isCloser due = true
  | .quoted quote pending => isQuote quote = true ∧ ∀ due ∈ pending, isCloser due = true
  | .escaped quote pending => isQuote quote = true ∧ ∀ due ∈ pending, isCloser due = true

theorem closer?_eq_some {opener closer : Char} (closes : closer? opener = some closer) :
    (opener = '(' ∧ closer = ')') ∨ (opener = '[' ∧ closer = ']') ∨
      (opener = '{' ∧ closer = '}') ∨ (opener = '<' ∧ closer = '>') := by
  grind [closer?]

theorem isCloser_of_opens? {pending : List Char} {c closer : Char}
    (opened : opens? stops pending c rest = some closer) : isCloser closer = true := by
  unfold opens? at opened
  split at opened
  · split at opened
    · cases opened
      rfl
    · cases opened
  · rcases closer?_eq_some opened with ⟨-, rfl⟩ | ⟨-, rfl⟩ | ⟨-, rfl⟩ | ⟨-, rfl⟩ <;> rfl

/-- One character keeps a state well-formed. -/
theorem State.WellFormed.next {state : State} {c : Char} (wellFormed : state.WellFormed) :
    (state.next stops c rest).WellFormed := by
  cases state with
  | plain pending =>
    rw [State.next_plain]
    split
    · next quote => exact ⟨quote, wellFormed⟩
    split
    · exact fun due inside => wellFormed due (List.mem_of_mem_tail inside)
    · intro due inside
      rcases List.mem_append.mp inside with opened | old
      · exact isCloser_of_opens? (Option.mem_toList.mp opened)
      · exact wellFormed due old
  | quoted quote pending =>
    rw [State.next]
    split
    · exact wellFormed
    split
    · exact wellFormed.2
    · exact wellFormed
  | escaped quote pending => exact wellFormed

theorem Reach.wellFormed (reach : Reach stops start taken rest stop)
    (wellFormed : start.WellFormed) : stop.WellFormed := by
  induction reach with
  | refl => exact wellFormed
  | step _ _ ih => exact ih wellFormed.next

theorem State.wellFormed_initial : (State.plain []).WellFormed :=
  fun _ inside => (List.not_mem_nil inside).elim

/-- Whether the character is neither a bracket nor a quote. -/
def isOrdinary (c : Char) : Bool :=
  !isQuote c && !isCloser c && (closer? c).isNone

theorem isOrdinary_iff {c : Char} :
    isOrdinary c = true ↔ isQuote c = false ∧ isCloser c = false ∧ closer? c = none := by
  simp [isOrdinary, and_assoc]

theorem isOrdinary_of_isBlank {c : Char} (blank : isBlank c = true) : isOrdinary c = true := by
  have notBracket : ∀ d ∈ ['(', ')', '[', ']', '{', '}', '<', '>', '\x27', '\x22'], c ≠ d := by
    intro d inside
    have visible : ∀ d ∈ ['(', ')', '[', ']', '{', '}', '<', '>', '\x27', '\x22'],
        isBlank d = false := List.all_iff_forall_prop.mp (by decide)
    exact ne_of_isBlank blank (visible d inside)
  simp only [List.forall_mem_cons] at notBracket
  simp [isOrdinary, isQuote, isCloser, closer?, notBracket]

/-- An ordinary character between tokens changes nothing. -/
theorem State.next_of_isOrdinary {pending : List Char} {c : Char} (ordinary : isOrdinary c = true)
    (wellFormed : (State.plain pending).WellFormed) :
    (State.plain pending).next stops c rest = .plain pending := by
  obtain ⟨noQuote, noCloser, noOpener⟩ := isOrdinary_iff.mp ordinary
  have notDue : pending.head? ≠ some c := by
    intro due
    have closer := wellFormed c (List.mem_of_head? due)
    rw [noCloser] at closer
    cases closer
  have notAngle : c ≠ '<' := by
    intro same
    subst same
    cases noOpener
  rw [State.next_plain, noQuote, if_neg Bool.false_ne_true, if_neg notDue, opens?, if_neg notAngle,
    noOpener]
  rfl

/-- Nothing is pending after an ordinary character only where nothing was
pending. -/
theorem State.eq_plain_of_next_isOrdinary {state : State} {c : Char}
    (ordinary : isOrdinary c = true) (wellFormed : state.WellFormed)
    (closed : state.next stops c rest = .plain []) : state = .plain [] := by
  cases state with
  | plain pending => exact (State.next_of_isOrdinary ordinary wellFormed).symm.trans closed
  | quoted quote pending =>
    rw [State.next] at closed
    split at closed
    · cases closed
    split at closed
    · next same =>
      have quotes := wellFormed.1
      rw [← same, (isOrdinary_iff.mp ordinary).1] at quotes
      cases quotes
    · cases closed
  | escaped quote pending => cases closed

/-- A blank in front of a cut text can be left out. -/
theorem cut?_dropFirst {c : Char} (blank : isBlank c = true)
    (found : cut? stops (c :: rest) = some (c :: taken, left)) :
    cut? stops rest = some (taken, left) := by
  obtain ⟨same, reach, ends⟩ := cut?_eq_some_iff.mp found
  cases reach with
  | step goesOn after =>
    rw [State.next_of_isOrdinary (isOrdinary_of_isBlank blank) State.wellFormed_initial] at after
    rw [List.cons_append, List.cons.injEq] at same
    exact cut?_eq_some_iff.mpr ⟨same.2, after, ends⟩

/-- A blank behind a cut text can be left out. -/
theorem cut?_dropLast {c : Char} (blank : isBlank c = true)
    (whole : cut? stops (taken ++ [c]) = some (taken ++ [c], [])) :
    cut? stops taken = some (taken, []) := by
  obtain ⟨-, reach, -⟩ := cut?_eq_some_iff.mp whole
  rcases reach.split with ⟨middle, before, last⟩
  rcases last.of_singleton with ⟨-, closed⟩
  have initial := State.eq_plain_of_next_isOrdinary (isOrdinary_of_isBlank blank)
    (before.wellFormed State.wellFormed_initial) closed.symm
  subst initial
  exact cut?_eq_some_iff.mpr
    ⟨(List.append_nil _).symm, before.replaceRest fun _ => rfl, trivial⟩

/-- What is walked over to its end is walked over to its end without the blanks
around it. -/
theorem cut?_trim (whole : cut? stops taken = some (taken, [])) :
    cut? stops (trim taken) = some (trim taken, []) :=
  trim_of_drop (fun text => cut? stops text = some (text, []))
    (fun _ _ blank => cut?_dropFirst blank) (fun _ _ blank => cut?_dropLast blank) whole

end CallSig.Bracket
