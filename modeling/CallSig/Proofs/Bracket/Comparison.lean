import CallSig.Proofs.Bracket.Balanced

/-!
# Comparisons and reprs

A `<` is a comparison unless a `>` comes in time, and the look-ahead that decides this
takes no notice of quotes and brackets: it may find a `>` that stands inside of them.
The walk then waits for a `>` that it does not meet, and fails at the end of the text
though nothing is left open there (`scanTo?_quoted_angle`).

`Closed` says that a text closes every bracket and every quoted string that it opens,
whatever angle brackets it has. `scanTo?_eq_none_iff` says that this is the only way in
which a scan of such a text fails. One direction follows the text from one repr to the
next. The other counts: a walk that has passed over a closer for want of a `>` has one
bracket more open than the text closes (`Closed.openBrackets_le`), and never gets rid of
it.
-/

namespace CallSig.Bracket

/-! ## Texts that close what they open -/

/-- Whether the character is a bracket other than an angle bracket. -/
def isBracket (c : Char) : Bool :=
  c = '(' || c = ')' || c = '[' || c = ']' || c = '{' || c = '}'

/-- The text closes the brackets that are `due`, innermost first, and whatever it
opens itself. A `<` or `>` is a character like any other; `outer` says which of
these may stand where no bracket is open. -/
inductive Closed (outer : Char → Bool) : List Char → List Char → Prop
  | nil : Closed outer [] []
  | char {due rest : List Char} {c : Char} : isQuote c = false → isBracket c = false →
    (due = [] → outer c = true) → Closed outer due rest → Closed outer due (c :: rest)
  | quoted {due body rest : List Char} {quote : Char} : isQuote quote = true →
    StringBody quote body → Closed outer due rest →
    Closed outer due (quote :: (body ++ quote :: rest))
  | opener {due rest : List Char} {first last : Char} : closer? first = some last → first ≠ '<' →
    Closed outer (last :: due) rest → Closed outer due (first :: rest)
  | closer {due rest : List Char} {first last : Char} : closer? first = some last → first ≠ '<' →
    Closed outer due rest → Closed outer (last :: due) (last :: rest)

variable {stops pending after due text taken rest body : List Char} {c first last quote : Char}
variable {outer : Char → Bool}

/-! ## One character -/

/-- Whether the character closes a bracket other than an angle bracket. -/
def Closes (last : Char) : Prop :=
  ∃ first, closer? first = some last ∧ first ≠ '<'

theorem Closes.cases (closes : Closes last) : last = ')' ∨ last = ']' ∨ last = '}' := by
  obtain ⟨first, closes, notAngle⟩ := closes
  rcases closer?_eq_some closes with ⟨-, rfl⟩ | ⟨-, rfl⟩ | ⟨-, rfl⟩ | ⟨rfl, -⟩
  · exact .inl rfl
  · exact .inr (.inl rfl)
  · exact .inr (.inr rfl)
  · exact absurd rfl notAngle

theorem Closes.isBracket (closes : Closes last) : isBracket last = true := by
  rcases closes.cases with rfl | rfl | rfl <;> rfl

theorem Closes.isQuote (closes : Closes last) : isQuote last = false := by
  rcases closes.cases with rfl | rfl | rfl <;> rfl

theorem Closes.closer? (closes : Closes last) : closer? last = none := by
  rcases closes.cases with rfl | rfl | rfl <;> rfl

theorem Closes.isCloser (closes : Closes last) : isCloser last = true := by
  rcases closes.cases with rfl | rfl | rfl <;> rfl

theorem Closes.ne_angle (closes : Closes last) : last ≠ '<' ∧ last ≠ '>' := by
  rcases closes.cases with rfl | rfl | rfl <;> decide

theorem closes_of_isCloser (isCloser : isCloser last = true) (notClose : last ≠ '>') :
    Closes last := by
  simp only [Bracket.isCloser, Bool.or_eq_true, decide_eq_true_eq, notClose, or_false] at isCloser
  rcases isCloser with (rfl | rfl) | rfl
  · exact ⟨'(', rfl, by decide⟩
  · exact ⟨'[', rfl, by decide⟩
  · exact ⟨'{', rfl, by decide⟩

theorem closer?_of_not_isBracket (other : isBracket c = false) (notAngle : c ≠ '<') :
    closer? c = none := by
  cases closes : closer? c with
  | none => rfl
  | some last =>
    rcases closer?_eq_some closes with ⟨rfl, -⟩ | ⟨rfl, -⟩ | ⟨rfl, -⟩ | ⟨rfl, -⟩
    · cases other
    · cases other
    · cases other
    · exact absurd rfl notAngle

/-- The one other character that opens is `<`. -/
theorem angle_of_opens? (other : isBracket c = false)
    (opened : opens? stops pending c rest = some last) : c = '<' ∧ last = '>' := by
  by_cases angle : c = '<'
  · simp only [opens?, if_pos angle, Option.ite_none_right_eq_some, Option.some.injEq] at opened
    exact ⟨angle, opened.2.symm⟩
  · rw [opens?, if_neg angle, closer?_of_not_isBracket other angle] at opened
    cases opened

/-- What is due in such a text closes brackets. -/
theorem Closed.closes (closed : Closed outer due text) : ∀ last ∈ due, Closes last := by
  induction closed with
  | nil => exact fun last inside => nomatch inside
  | char _ _ _ _ ih => exact ih
  | quoted _ _ _ ih => exact ih
  | opener _ _ _ ih => exact fun last inside => ih last (List.mem_cons_of_mem _ inside)
  | closer closes notAngle _ ih => exact List.forall_mem_cons.mpr ⟨⟨_, closes, notAngle⟩, ih⟩

theorem Closed.wellFormed (closed : Closed outer due text) : (State.plain due).WellFormed :=
  fun last inside => (closed.closes last inside).isCloser

theorem State.WellFormed.angle (wellFormed : (State.plain pending).WellFormed) :
    (State.plain ('>' :: pending)).WellFormed :=
  List.forall_mem_cons.mpr ⟨rfl, wellFormed⟩

/-- A character that is no quote, opens nothing and closes nothing leaves a state as it
is. -/
theorem State.next_other (noQuote : isQuote c = false) (notDue : pending.head? ≠ some c)
    (unopened : opens? stops pending c rest = none) :
    (State.plain pending).next stops c rest = .plain pending := by
  rw [State.next_plain, noQuote, if_neg Bool.false_ne_true, if_neg notDue, unopened]
  rfl

theorem State.next_opener (closes : closer? first = some last) (notAngle : first ≠ '<')
    (wellFormed : (State.plain pending).WellFormed) (rest : List Char) :
    (State.plain pending).next stops first rest = .plain (last :: pending) := by
  have notDue : pending.head? ≠ some first := by
    intro isDue
    have isCloser := wellFormed first (List.mem_of_head? isDue)
    rcases closer?_eq_some closes with ⟨rfl, -⟩ | ⟨rfl, -⟩ | ⟨rfl, -⟩ | ⟨rfl, -⟩ <;> cases isCloser
  rw [State.next_plain, (isQuote_of_closer? closes).1, if_neg Bool.false_ne_true, if_neg notDue,
    opens?, if_neg notAngle, closes]
  rfl

/-! ## Stretches with a `>` due -/

/-- While a `>` is due no other `<` opens, so a walk goes past a text that closes what
it opens and has no `>` outside of that. -/
theorem Closed.reach (closed : Closed (· != '>') due text)
    (wellFormed : (State.plain (due ++ '>' :: pending)).WellFormed) (rest : List Char) :
    Reach stops (.plain (due ++ '>' :: pending)) text rest (.plain ('>' :: pending)) := by
  have inside (due : List Char) (c : Char) :
      (State.plain (due ++ '>' :: pending)).stopsAt stops c = false := by
    cases due <;> rfl
  induction closed with
  | nil => exact .refl
  | @char due text c noQuote notBracket notClose closed ih =>
    have notDue : (due ++ '>' :: pending).head? ≠ some c := by
      cases due with
      | nil =>
        have other : c ≠ '>' := by simpa using notClose rfl
        simpa using other.symm
      | cons last due =>
        rintro ⟨⟩
        rw [(closed.closes c List.mem_cons_self).isBracket] at notBracket
        cases notBracket
    have unopened : opens? stops (due ++ '>' :: pending) c (text ++ rest) = none := by
      by_cases angle : c = '<'
      · simp [opens?, angle]
      · rw [opens?, if_neg angle, closer?_of_not_isBracket notBracket angle]
    refine .step (inside due c) ?_
    rw [State.next_other noQuote notDue unopened]
    exact ih wellFormed
  | @quoted due body text quote quotes string closed ih =>
    have past := Passes.quoted (inside due quote) quotes string (text ++ rest)
    simpa using past.trans (ih wellFormed)
  | @opener due text first last closes notAngle closed ih =>
    refine .step (inside due first) ?_
    rw [State.next_opener closes notAngle wellFormed]
    exact ih (wellFormed.cons closes)
  | @closer due text first last closes notAngle closed ih =>
    refine .step (inside (last :: due) last) ?_
    rw [List.cons_append, State.next_closer (isQuote_of_closer? closes).2]
    exact ih fun due inside => wellFormed due (List.mem_cons_of_mem _ inside)

/-- The text has a `>` outside of what it opens, behind which it goes on to close what
is `due`; or it has none up to where the innermost of these is closed, or to its end. -/
inductive ToAngle (outer : Char → Bool) (inside due : List Char) : List Char → Prop
  | met {inner rest : List Char} : Closed (· != '>') inside inner → Closed outer due rest →
    ToAngle outer inside due (inner ++ '>' :: rest)
  | unmet {inner rest : List Char} : Closed (· != '>') inside inner → rest.head? = due.head? →
    ToAngle outer inside due (inner ++ rest)

/-- A piece in front of the text goes to what stands before the `>`, if it may stand there. -/
theorem ToAngle.prepend {inside more piece : List Char} (toAngle : ToAngle outer inside due text)
    (longer : ∀ {inner}, Closed (· != '>') inside inner → Closed (· != '>') more (piece ++ inner)) :
    ToAngle outer more due (piece ++ text) := by
  rcases toAngle with ⟨closedInner, closedRest⟩ | ⟨closedInner, ends⟩
  · rw [← List.append_assoc]
    exact .met (longer closedInner) closedRest
  · rw [← List.append_assoc]
    exact .unmet (longer closedInner) ends

/-- A text that closes the brackets inside of an angle bracket and those around it has a
`>` between the two, or has none in time. -/
theorem Closed.toAngle {inside : List Char} (closed : Closed outer (inside ++ due) text) :
    ToAngle outer inside due text := by
  generalize all : inside ++ due = both at closed
  induction closed generalizing inside with
  | nil =>
    obtain ⟨rfl, rfl⟩ := List.append_eq_nil_iff.mp all
    have unmet : ToAngle outer [] [] ([] ++ []) := .unmet .nil rfl
    exact unmet
  | @char both text c noQuote notBracket _ closed ih =>
    subst all
    by_cases close : inside = [] ∧ c = '>'
    · obtain ⟨rfl, rfl⟩ := close
      exact .met .nil closed
    · have notClose : inside = [] → (c != '>') = true := fun empty => by simpa [empty] using close
      have longer : ToAngle outer inside due ([c] ++ text) :=
        (ih rfl).prepend (.char noQuote notBracket notClose)
      exact longer
  | @quoted both body text quote quotes string _ ih =>
    have longer : ToAngle outer inside due (quote :: (body ++ [quote]) ++ text) :=
      (ih all).prepend fun closed => by simpa using closed.quoted quotes string
    simpa using longer
  | @opener both text first last closes notAngle _ ih =>
    subst all
    have longer : ToAngle outer inside due ([first] ++ text) :=
      (ih List.cons_append).prepend (.opener closes notAngle)
    exact longer
  | @closer both text first last closes notAngle closed ih =>
    cases inside with
    | nil =>
      rw [List.nil_append] at all
      exact .unmet .nil (by rw [all]; rfl)
    | cons other inside =>
      obtain ⟨rfl, rfl⟩ := List.cons.inj all
      have longer : ToAngle outer (other :: inside) due ([other] ++ text) :=
        (ih rfl).prepend (.closer closes notAngle)
      exact longer

/-! ## Openers without their `>` -/

/-- A walk that starts with these closers due takes the `<` between the two texts for an
opener. -/
structure OpensAt (stops due before rest pending : List Char) : Prop where
  reach : Reach stops (.plain due) before ('<' :: rest) (.plain pending)
  goesOn : (State.plain pending).stopsAt stops '<' = false
  opens : opens? stops pending '<' rest = some '>'

/-- A `<` of the text is taken for an opener, and no `>` is met from there to where the
innermost bracket around it is closed, or to the end. -/
def Unpaired (stops due text : List Char) : Prop :=
  ∃ before inner after pending, text = before ++ '<' :: (inner ++ after) ∧
    OpensAt stops due before (inner ++ after) pending ∧ Closed (· != '>') [] inner ∧
    after.head? = pending.head?

/-- A `<` that finds no `>` does so behind any text that a walk gets past. -/
theorem Unpaired.prepend {piece : List Char} (unpaired : Unpaired stops pending text)
    (reach : Reach stops (.plain due) piece text (.plain pending)) :
    Unpaired stops due (piece ++ text) := by
  obtain ⟨before, inner, after, inFront, rfl, opensAt, closed, ends⟩ := unpaired
  exact ⟨piece ++ before, inner, after, inFront, by simp,
    ⟨reach.trans opensAt.reach, opensAt.goesOn, opensAt.opens⟩, closed, ends⟩

theorem State.next_opened (wellFormed : (State.plain pending).WellFormed)
    (opened : opens? stops pending '<' rest = some '>') :
    (State.plain pending).next stops '<' rest = .plain ('>' :: pending) := by
  have notDue : pending.head? ≠ some '<' := by
    intro isDue
    cases wellFormed '<' (List.mem_of_head? isDue)
  rw [State.next_plain, if_neg (by decide), if_neg notDue, opened]
  rfl

/-- A walk can only fail at a `<` that it takes for an opener. -/
theorem Closed.unpaired_of_walk? (closed : Closed outer due text)
    (fails : walk? stops (.plain due) text = none) : Unpaired stops due text := by
  -- behind a repr the induction goes on with what follows its `>`
  induction length : text.length using Nat.strong_induction_on generalizing due text with
  | _ size ih =>
    subst length
    have goOn (piece : List Char) {rest due' : List Char} (whole : text = piece ++ rest)
        (nonempty : piece ≠ []) (reach : Reach stops (.plain due) piece rest (.plain due'))
        (closedRest : Closed outer due' rest) : Unpaired stops due text := by
      subst whole
      have shorter : rest.length < (piece ++ rest).length := by
        have positive := List.length_pos_of_ne_nil nonempty
        rw [List.length_append]
        omega
      rw [reach.walk?_append, Option.map_eq_none_iff] at fails
      exact (ih _ shorter closedRest fails rfl).prepend reach
    have noStop {c : Char} {rest : List Char} (starts : text = c :: rest) :
        (State.plain due).stopsAt stops c = false := by
      by_contra stop
      rw [starts, walk?_of_stopsAt (by simpa using stop)] at fails
      cases fails
    cases closed with
    | nil => simp [walk?] at fails
    | @char _ rest c noQuote notBracket _ closed =>
      have notDue : due.head? ≠ some c := by
        intro isDue
        rw [(closed.closes c (List.mem_of_head? isDue)).isBracket] at notBracket
        cases notBracket
      cases opened : opens? stops due c rest with
      | none =>
        refine goOn [c] rfl (List.cons_ne_nil _ _) ?_ closed
        have single : Reach stops (.plain due) [c] rest _ := .singleton (noStop rfl)
        rwa [State.next_other noQuote notDue opened] at single
      | some last =>
        obtain ⟨rfl, rfl⟩ := angle_of_opens? notBracket opened
        have wellFormed : (State.plain due).WellFormed := closed.wellFormed
        have toAngle : ToAngle outer [] due rest := Closed.toAngle closed
        rcases toAngle with
          @⟨inner, rest, closedInner, closedRest⟩ | @⟨inner, after, closedInner, ends⟩
        · refine goOn ('<' :: (inner ++ ['>'])) (by simp) (List.cons_ne_nil _ _) ?_ closedRest
          refine .step (noStop rfl) ?_
          rw [List.append_assoc, List.singleton_append, State.next_opened wellFormed opened]
          refine (closedInner.reach wellFormed.angle _).trans (.step rfl ?_)
          rw [State.next_closer rfl]
          exact .refl
        · exact ⟨[], inner, after, due, rfl, ⟨.refl, noStop rfl, opened⟩, closedInner, ends⟩
    | @quoted _ body rest quote quotes string closed =>
      exact goOn (quote :: (body ++ [quote])) (by simp) (List.cons_ne_nil _ _)
        (Passes.quoted (noStop rfl) quotes string rest) closed
    | @opener _ rest first last closes notAngle closed =>
      have wellFormed : (State.plain due).WellFormed := fun other inside =>
        closed.wellFormed other (List.mem_cons_of_mem _ inside)
      refine goOn [first] rfl (List.cons_ne_nil _ _) ?_ closed
      have single : Reach stops (.plain due) [first] rest _ := .singleton (noStop rfl)
      rwa [State.next_opener closes notAngle wellFormed] at single
    | @closer due rest first last closes notAngle closed =>
      refine goOn [last] rfl (List.cons_ne_nil _ _) ?_ closed
      have single : Reach stops (.plain (last :: due)) [last] rest _ := .singleton (noStop rfl)
      rwa [State.next_closer (isQuote_of_closer? closes).2] at single

/-! ## A walk that does not recover -/

/-- The number of brackets other than angle brackets that are open. -/
def openBrackets (pending : List Char) : Nat :=
  pending.countP (· != '>')

theorem openBrackets_cons_angle (pending : List Char) :
    openBrackets ('>' :: pending) = openBrackets pending := by
  simp [openBrackets]

theorem openBrackets_cons (closes : Closes last) (pending : List Char) :
    openBrackets (last :: pending) = openBrackets pending + 1 := by
  simp [openBrackets, closes.ne_angle.2]

/-- No other character changes the number of open brackets. -/
theorem State.next_of_not_isBracket (noQuote : isQuote c = false) (notBracket : isBracket c = false)
    (wellFormed : (State.plain pending).WellFormed) (stops rest : List Char) :
    ∃ after, (State.plain pending).next stops c rest = .plain after ∧
      openBrackets after = openBrackets pending := by
  rw [State.next_plain, noQuote, if_neg Bool.false_ne_true]
  split
  · next isDue =>
    obtain ⟨pending, rfl⟩ := List.head?_eq_some_iff.mp isDue
    have angle : c = '>' := by
      by_contra notClose
      have closes := closes_of_isCloser (wellFormed c List.mem_cons_self) notClose
      rw [closes.isBracket] at notBracket
      cases notBracket
    subst angle
    exact ⟨pending, rfl, (openBrackets_cons_angle pending).symm⟩
  · cases opened : opens? stops pending c rest with
    | none => exact ⟨pending, rfl, rfl⟩
    | some last =>
      obtain ⟨-, rfl⟩ := angle_of_opens? notBracket opened
      exact ⟨'>' :: pending, rfl, openBrackets_cons_angle pending⟩

/-- A closer that is not due is passed over. -/
theorem State.next_of_closes (closes : Closes last) (notDue : pending.head? ≠ some last)
    (rest : List Char) : (State.plain pending).next stops last rest = .plain pending := by
  refine State.next_other closes.isQuote notDue ?_
  rw [opens?, if_neg closes.ne_angle.1, closes.closer?]

/-- A walk that ends between tokens goes past a quoted string that it is in. -/
theorem StringBody.reach_inv (string : StringBody quote body) (quotes : isQuote quote = true)
    {more : List Char} (reach : Reach stops (.quoted quote pending) taken rest (.plain after))
    (whole : body ++ quote :: more = taken ++ rest) :
    ∃ behind, more = behind ++ rest ∧ Reach stops (.plain pending) behind rest (.plain after) := by
  induction string generalizing taken with
  | nil =>
    cases reach with
    | @step _ _ _ taken _ _ next =>
      obtain ⟨rfl, rfl⟩ := List.cons.inj whole
      simp only [State.next, if_neg (ne_escape_of_isQuote quotes), if_true] at next
      exact ⟨taken, rfl, next⟩
  | char notQuote notEscape _ ih =>
    cases reach with
    | step _ next =>
      obtain ⟨rfl, tail⟩ := List.cons.inj whole
      rw [State.next, if_neg notEscape, if_neg notQuote] at next
      exact ih next tail
  | escape _ ih =>
    cases reach with
    | step _ next =>
      simp only [List.cons_append, List.cons.injEq] at whole
      obtain ⟨rfl, whole⟩ := whole
      rw [State.next, if_pos rfl] at next
      cases next with
      | step _ next =>
        simp only [List.cons_append, List.cons.injEq] at whole
        exact ih next whole.2

/-- Of a text that closes what is due, a walk has at least as many brackets open as are
still due, and a surplus that it starts with stays. -/
theorem Closed.openBrackets_le (closed : Closed outer due text)
    (reach : Reach stops (.plain pending) taken rest (.plain after)) (whole : text = taken ++ rest)
    (wellFormed : (State.plain pending).WellFormed) (surplus : Nat)
    (le : due.length + surplus ≤ openBrackets pending) :
    ∃ left, Closed outer left rest ∧ left.length + surplus ≤ openBrackets after := by
  induction closed generalizing pending taken with
  | nil =>
    obtain ⟨rfl, rfl⟩ := List.append_eq_nil_iff.mp whole.symm
    cases reach
    exact ⟨[], .nil, le⟩
  | @char due text c noQuote notBracket allowed closed ih =>
    cases reach with
    | refl =>
      obtain rfl : c :: text = rest := whole
      exact ⟨due, closed.char noQuote notBracket allowed, le⟩
    | @step _ _ _ taken _ _ next =>
      obtain ⟨rfl, rfl⟩ := List.cons.inj whole
      have wellFormedNext : ((State.plain pending).next stops c (taken ++ rest)).WellFormed :=
        wellFormed.next
      obtain ⟨pending', same, count⟩ :=
        State.next_of_not_isBracket noQuote notBracket wellFormed stops (taken ++ rest)
      rw [same] at next wellFormedNext
      exact ih next rfl wellFormedNext (count.symm ▸ le)
  | @quoted due body text quote quotes string closed ih =>
    cases reach with
    | refl =>
      obtain rfl : quote :: (body ++ quote :: text) = rest := whole
      exact ⟨due, closed.quoted quotes string, le⟩
    | step _ next =>
      obtain ⟨rfl, tail⟩ := List.cons.inj whole
      rw [State.next_plain, if_pos quotes] at next
      obtain ⟨behind, rfl, next⟩ := string.reach_inv quotes next tail
      exact ih next rfl wellFormed le
  | @opener due text first last closes notAngle closed ih =>
    cases reach with
    | refl =>
      obtain rfl : first :: text = rest := whole
      exact ⟨due, closed.opener closes notAngle, le⟩
    | step _ next =>
      obtain ⟨rfl, rfl⟩ := List.cons.inj whole
      rw [State.next_opener closes notAngle wellFormed] at next
      refine ih next rfl (wellFormed.cons closes) ?_
      rw [openBrackets_cons ⟨first, closes, notAngle⟩, List.length_cons]
      omega
  | @closer due text first last closes notAngle closed ih =>
    have closesLast : Closes last := ⟨first, closes, notAngle⟩
    rw [List.length_cons] at le
    cases reach with
    | refl =>
      obtain rfl : last :: text = rest := whole
      exact ⟨last :: due, closed.closer closes notAngle, le⟩
    | step _ next =>
      obtain ⟨rfl, rfl⟩ := List.cons.inj whole
      by_cases isDue : pending.head? = some last
      · obtain ⟨pending, rfl⟩ := List.head?_eq_some_iff.mp isDue
        rw [State.next_closer closesLast.isQuote] at next
        rw [openBrackets_cons closesLast] at le
        exact ih next rfl (fun other inside => wellFormed other (List.mem_cons_of_mem _ inside))
          (by omega)
      · rw [State.next_of_closes closesLast isDue] at next
        exact ih next rfl wellFormed (by omega)

/-- Behind the closer of a bracket that is due, the rest closes what else is due. -/
theorem Closed.tail (closed : Closed outer due (last :: rest)) (closes : Closes last) :
    ∃ more, due = last :: more ∧ Closed outer more rest := by
  generalize same : last :: rest = text at closed
  cases closed with
  | nil => cases same
  | char _ notBracket =>
    cases same
    rw [closes.isBracket] at notBracket
    cases notBracket
  | quoted quotes =>
    cases same
    rw [closes.isQuote] at quotes
    cases quotes
  | opener opens =>
    cases same
    rw [closes.closer?] at opens
    cases opens
  | closer _ _ closed =>
    cases same
    exact ⟨_, rfl, closed⟩

/-- A walk that has more brackets open than the text closes fails. -/
theorem Closed.walk?_eq_none (closed : Closed outer due text)
    (wellFormed : (State.plain pending).WellFormed) (lt : due.length < openBrackets pending) :
    walk? stops (.plain pending) text = none := by
  cases walked : walk? stops (.plain pending) text with
  | none => rfl
  | some both =>
    rcases both with ⟨taken, left⟩
    obtain ⟨whole, reach, -⟩ := walk?_eq_some_iff.mp walked
    obtain ⟨_, -, le⟩ := closed.openBrackets_le reach whole wellFormed 1 lt
    simp [openBrackets] at le

/-- An opener that no `>` is met for is still open behind the bracket around it, and so is
that bracket. -/
theorem Unpaired.walk?_eq_none (unpaired : Unpaired stops [] text) (closed : Closed outer [] text) :
    walk? stops (.plain []) text = none := by
  obtain ⟨before, inner, after, pending, rfl, opensAt, closedInner, ends⟩ := unpaired
  have wellFormed := opensAt.reach.wellFormed State.wellFormed_initial
  have inside : Reach stops (.plain pending) ('<' :: inner) after (.plain ('>' :: pending)) := by
    refine .step opensAt.goesOn ?_
    rw [State.next_opened wellFormed opensAt.opens]
    exact closedInner.reach wellFormed.angle after
  have reach := opensAt.reach.trans inside
  have whole : before ++ '<' :: (inner ++ after) = before ++ '<' :: inner ++ after := by simp
  obtain ⟨due, closedAfter, le⟩ :=
    closed.openBrackets_le reach whole State.wellFormed_initial 0 (Nat.le_refl _)
  rw [whole, reach.walk?_append, Option.map_eq_none_iff]
  cases pending with
  | nil =>
    cases after with
    | nil => rfl
    | cons c after => cases ends
  | cons last pending =>
    cases after with
    | nil => cases ends
    | cons c after =>
      cases ends
      have notClose : last ≠ '>' := by
        rintro rfl
        have opened := opensAt.opens
        simp [opens?] at opened
      have closes := closes_of_isCloser (wellFormed last List.mem_cons_self) notClose
      have notDue : ('>' :: last :: pending).head? ≠ some last := by simpa using notClose.symm
      obtain ⟨due, rfl, closedBehind⟩ := closedAfter.tail closes
      rw [openBrackets_cons_angle] at le
      rw [walk?_of_not_stopsAt rfl, State.next_of_closes closes notDue, Option.map_eq_none_iff]
      refine closedBehind.walk?_eq_none wellFormed.angle ?_
      rw [openBrackets_cons_angle]
      exact le

/-- Among the texts that close every bracket and every quoted string, a scan fails for
those alone in which it takes a `<` for an opener that no `>` is met for. -/
theorem scanTo?_eq_none_iff {text : String} (closed : Closed (fun _ => true) [] text.toList)
    (stops : List Char) : scanTo? text stops = none ↔ Unpaired stops [] text.toList := by
  rw [scanTo?, Option.map_eq_none_iff, cut?]
  exact ⟨closed.unpaired_of_walk?, fun unpaired => unpaired.walk?_eq_none closed⟩

/-- In the bracket the look-ahead at the second `<` finds a `>` that stands in another
bracket. The first `<` is the opener of a repr. -/
theorem scanTo?_eq_none_iff_nested :
    Closed (fun _ => true) [] "<v>(n<[m>0])".toList ∧
      scanTo? "<v>(n<[m>0])" [','] = none ∧ Unpaired [','] [] "<v>(n<[m>0])".toList := by
  have round : closer? '(' = some ')' := rfl
  have square : closer? '[' = some ']' := rfl
  have closed : Closed (fun _ => true) [] "<v>(n<[m>0])".toList := by
    refine .char rfl rfl (fun _ => rfl) (.char rfl rfl (fun _ => rfl) ?_)
    refine .char rfl rfl (fun _ => rfl) (.opener round (by decide) ?_)
    refine .char rfl rfl (fun _ => rfl) (.char rfl rfl (fun _ => rfl) ?_)
    refine .opener square (by decide) (.char rfl rfl (fun _ => rfl) ?_)
    refine .char rfl rfl (fun _ => rfl) (.char rfl rfl (fun _ => rfl) ?_)
    exact .closer square (by decide) (.closer round (by decide) .nil)
  have fails : scanTo? "<v>(n<[m>0])" [','] = none := by decide +kernel
  exact ⟨closed, fails, (scanTo?_eq_none_iff closed [',']).mp fails⟩

/-- A scan fails at a comparison with a quoted `>`, though the quoted string is closed
and there is no bracket. -/
theorem scanTo?_quoted_angle :
    Closed (fun _ => true) [] "a<'>'".toList ∧ scanTo? "a<'>'" [','] = none := by
  refine ⟨?_, by decide +kernel⟩
  have string : StringBody '\x27' ['>'] := .char (by decide) (by decide) .nil
  exact .char rfl rfl (fun _ => rfl) (.char rfl rfl (fun _ => rfl) (.quoted rfl string .nil))

end CallSig.Bracket
