import CallSig.Proofs.Bracket.Matching
import CallSig.Proofs.Bracket.Nesting

/-!
# Balanced expressions

A balanced expression is a sequence of ordinary characters, quoted strings,
bracketed expressions and reprs `<...>`. `Balanced outer` also says which of
them may stand outside every bracket: `outer` has to allow the characters and
the bracketed expressions there.

A walk goes past a balanced expression as past one ordinary character, whatever
comes behind it (`Balanced.passes`), when its stops are not allowed outside the
brackets or a bracket is open around it. The structural matcher goes past it at
any depth (`Balanced.neutral`): the strings in it hold no bracket that it counts.
-/

namespace CallSig.Bracket

open CallSig.Text

/-- What may stand outside every bracket of an expression. -/
structure Outermost where
  char : Char → Bool
  /-- The bracketed expressions, by opener and content. -/
  group : Char → List Char → Bool

/-- Anything may stand outside every bracket. -/
def Outermost.anything : Outermost :=
  ⟨fun _ => true, fun _ _ => true⟩

/-- Whether the character is one that the structural matcher may count. -/
def isStructural (c : Char) : Bool :=
  c = '(' || c = ')' || c = '[' || c = ']'

/-- The content of a quoted string: a backslash takes the next character with
it, and no character is structural. -/
inductive QuotedText (quote : Char) : List Char → Prop
  | nil : QuotedText quote []
  | char {c : Char} {rest : List Char} : c ≠ quote → c ≠ '\\' → isStructural c = false →
    QuotedText quote rest → QuotedText quote (c :: rest)
  | escape {c : Char} {rest : List Char} : isStructural c = false →
    QuotedText quote rest → QuotedText quote ('\\' :: c :: rest)

/-- The content of any quoted string: a backslash takes the next character with it. -/
inductive StringBody (quote : Char) : List Char → Prop
  | nil : StringBody quote []
  | char {c : Char} {rest : List Char} : c ≠ quote → c ≠ '\\' → StringBody quote rest →
    StringBody quote (c :: rest)
  | escape {c : Char} {rest : List Char} : StringBody quote rest →
    StringBody quote ('\\' :: c :: rest)

theorem QuotedText.stringBody {quote : Char} {body : List Char} (quoted : QuotedText quote body) :
    StringBody quote body := by
  induction quoted with
  | nil => exact .nil
  | char notQuote notEscape _ _ ih => exact .char notQuote notEscape ih
  | escape _ _ ih => exact .escape ih

/-- Whether the character may stand in a repr. -/
def isReprChar (c : Char) : Bool :=
  isOrdinary c && c != ',' && c != '='

theorem isOrdinary_of_isReprChar {c : Char} (reprChar : isReprChar c = true) :
    isOrdinary c = true := by
  simp only [isReprChar, Bool.and_eq_true] at reprChar
  exact reprChar.1.1

/-- A balanced expression, with what `outer` allows outside its brackets. -/
inductive Balanced : Outermost → List Char → Prop
  | nil {outer : Outermost} : Balanced outer []
  | char {outer : Outermost} {c : Char} {rest : List Char} :
    isOrdinary c = true → outer.char c = true → Balanced outer rest → Balanced outer (c :: rest)
  | quoted {outer : Outermost} {quote : Char} {body rest : List Char} :
    isQuote quote = true → QuotedText quote body → Balanced outer rest →
    Balanced outer (quote :: (body ++ quote :: rest))
  | group {outer : Outermost} {opener closer : Char} {inner rest : List Char} :
    closer? opener = some closer → opener ≠ '<' → outer.group opener inner = true →
    Balanced .anything inner → Balanced outer rest →
    Balanced outer (opener :: (inner ++ closer :: rest))
  | repr {outer : Outermost} {body rest : List Char} :
    (∀ c ∈ body, isReprChar c = true) → Balanced outer rest →
    Balanced outer ('<' :: (body ++ '>' :: rest))

/-! ## Texts that a walk goes past -/

/-- A walk goes past the text between tokens, whatever comes behind it. -/
def Passes (stops pending text : List Char) : Prop :=
  ∀ rest, Reach stops (.plain pending) text rest (.plain pending)

variable {stops pending : List Char} {first second text : List Char}

theorem Passes.nil : Passes stops pending [] :=
  fun _ => .refl

theorem Passes.append (before : Passes stops pending first)
    (behind : Passes stops pending second) : Passes stops pending (first ++ second) :=
  fun rest => (before (second ++ rest)).trans (behind rest)

/-- A walk goes past a character that is no stop and means nothing to it. -/
theorem Passes.ordinary {c : Char} (noStop : (State.plain pending).stopsAt stops c = false)
    (wellFormed : (State.plain pending).WellFormed) (ordinary : isOrdinary c = true) :
    Passes stops pending [c] := by
  intro rest
  have single : Reach stops (.plain pending) [c] rest _ := .singleton noStop
  rwa [State.next_of_isOrdinary ordinary wellFormed] at single

theorem Passes.of_forall (noStop : ∀ c ∈ text, (State.plain pending).stopsAt stops c = false)
    (wellFormed : (State.plain pending).WellFormed) (ordinary : ∀ c ∈ text, isOrdinary c = true) :
    Passes stops pending text := by
  induction text with
  | nil => exact .nil
  | cons c text ih =>
    rw [List.forall_mem_cons] at noStop ordinary
    exact (Passes.ordinary noStop.1 wellFormed ordinary.1).append (ih noStop.2 ordinary.2)

/-- Inside of quotes a walk goes past the body of the string, whatever it would mean
outside. -/
theorem StringBody.reach {quote : Char} {body : List Char} (string : StringBody quote body)
    (rest : List Char) :
    Reach stops (.quoted quote pending) body rest (.quoted quote pending) := by
  induction string with
  | nil => exact .refl
  | char notQuote notEscape _ ih =>
    refine .step rfl ?_
    rw [State.next, if_neg notEscape, if_neg notQuote]
    exact ih
  | escape _ ih => exact .step rfl (.step rfl ih)

theorem ne_escape_of_isQuote {quote : Char} (quotes : isQuote quote = true) : quote ≠ '\\' := by
  rintro rfl
  cases quotes

/-- A walk goes past a quoted string as a whole. -/
theorem Passes.quoted {quote : Char} {body : List Char}
    (noStop : (State.plain pending).stopsAt stops quote = false) (quotes : isQuote quote = true)
    (string : StringBody quote body) : Passes stops pending (quote :: (body ++ [quote])) := by
  intro rest
  refine .step noStop ?_
  rw [State.next_plain, if_pos quotes]
  refine (string.reach _).trans (.step rfl ?_)
  rw [State.next, if_neg (ne_escape_of_isQuote quotes), if_pos rfl]
  exact .refl

theorem State.next_closer {closer : Char} (noQuote : isQuote closer = false)
    (rest : List Char) :
    (State.plain (closer :: pending)).next stops closer rest = .plain pending := by
  simp [State.next_plain, noQuote]

/-- A walk goes past a bracket when it goes past what the bracket holds with the closer
due. -/
theorem Passes.group {opener closer : Char} {inner : List Char}
    (noStop : (State.plain pending).stopsAt stops opener = false)
    (wellFormed : (State.plain pending).WellFormed) (closes : closer? opener = some closer)
    (notAngle : opener ≠ '<') (inside : Passes stops (closer :: pending) inner) :
    Passes stops pending (opener :: (inner ++ [closer])) := by
  intro rest
  obtain ⟨openerNoQuote, closerNoQuote⟩ := isQuote_of_closer? closes
  have notDue : pending.head? ≠ some opener := by
    intro due
    have closer := wellFormed opener (List.mem_of_head? due)
    rcases closer?_eq_some closes with ⟨rfl, -⟩ | ⟨rfl, -⟩ | ⟨rfl, -⟩ | ⟨rfl, -⟩ <;> cases closer
  refine .step noStop ?_
  rw [State.next_plain, openerNoQuote, if_neg Bool.false_ne_true, if_neg notDue, opens?, if_neg notAngle,
    closes]
  refine (inside _).trans (.step rfl ?_)
  rw [State.next_closer closerNoQuote]
  exact .refl

/-- The look-ahead finds the `>` behind characters that settle nothing. -/
theorem angleCloses_of_unsettled {innermost : Option Char} {body : List Char}
    (unsettled : ∀ c ∈ body, settles stops innermost c = false) (rest : List Char) :
    angleCloses stops innermost (body ++ '>' :: rest) = true := by
  have none : body.any (settles stops innermost) = false := by simpa using unsettled
  rw [angleCloses_append, none, angleCloses_cons]
  simp [settles]

/-- In the look-ahead of a `<`, an ordinary character that is no stop settles nothing. -/
theorem settles_eq_false {c : Char} (ordinary : isOrdinary c = true)
    (noStop : (State.plain pending).stopsAt stops c = false)
    (wellFormed : (State.plain pending).WellFormed) :
    settles stops pending.head? c = false := by
  obtain ⟨-, noCloser, -⟩ := isOrdinary_iff.mp ordinary
  have notClose : c ≠ '>' := by
    intro same
    subst same
    cases noCloser
  cases pending with
  | nil =>
    have noEnd : isStop stops c = false := noStop
    simp [settles, notClose, noEnd]
  | cons due pending =>
    have other : c ≠ due := by
      intro same
      subst same
      rw [wellFormed c List.mem_cons_self] at noCloser
      cases noCloser
    simp [settles, notClose, other]

/-- A walk goes past a `<...>` of ordinary characters, as long as no other angle bracket
is open. -/
theorem Passes.repr {body : List Char} (noStop : (State.plain pending).stopsAt stops '<' = false)
    (wellFormed : (State.plain pending).WellFormed) (unnested : '>' ∉ pending)
    (ordinary : ∀ c ∈ body, isOrdinary c = true)
    (noStops : ∀ c ∈ body, (State.plain pending).stopsAt stops c = false) :
    Passes stops pending ('<' :: (body ++ ['>'])) := by
  intro rest
  have notDue : pending.head? ≠ some '<' := by
    intro due
    cases wellFormed '<' (List.mem_of_head? due)
  have closes : angleCloses stops pending.head? (body ++ '>' :: rest) = true :=
    angleCloses_of_unsettled
      (fun c inside => settles_eq_false (ordinary c inside) (noStops c inside) wellFormed) rest
  have nested : (State.plain ('>' :: pending)).WellFormed := by
    intro due inside
    rcases List.mem_cons.mp inside with rfl | old
    · rfl
    · exact wellFormed due old
  have inside : Passes stops ('>' :: pending) body :=
    .of_forall (fun _ _ => rfl) nested ordinary
  refine .step noStop ?_
  rw [State.next_open, if_neg notDue, List.append_assoc, List.singleton_append,
    if_pos ⟨unnested, closes⟩]
  refine (inside _).trans (.step rfl ?_)
  rw [State.next_closer rfl]
  exact .refl

/-! ## Balanced expressions are gone past -/

/-- No stop is allowed outside the brackets of an expression, or in a repr. -/
structure Outermost.Clear (outer : Outermost) (stops : List Char) : Prop where
  char : ∀ c ∈ stops, isOrdinary c = true → outer.char c = false
  quote : ∀ c ∈ stops, isQuote c = false
  group : ∀ c ∈ stops, closer? c ≠ none → ∀ inner, outer.group c inner = false
  angle : '<' ∉ stops
  reprChar : ∀ c ∈ stops, isReprChar c = false

/-- A walk ends only at a stop, and only where nothing is due. -/
theorem State.stopsAt_of_pending {c : Char} (noStop : pending = [] → c ∉ stops) :
    (State.plain pending).stopsAt stops c = false := by
  cases pending with
  | nil => simp [State.stopsAt, isStop, noStop rfl]
  | cons due pending => rfl

theorem State.WellFormed.cons {opener closer : Char} (closes : closer? opener = some closer)
    (wellFormed : (State.plain pending).WellFormed) :
    (State.plain (closer :: pending)).WellFormed := by
  intro due inside
  rcases List.mem_cons.mp inside with rfl | old
  · rcases closer?_eq_some closes with ⟨-, rfl⟩ | ⟨-, rfl⟩ | ⟨-, rfl⟩ | ⟨-, rfl⟩ <;> rfl
  · exact wellFormed due old

/-- A walk goes past a balanced expression that holds no stop outside its
brackets, and past any balanced expression inside a bracket. -/
theorem Balanced.passes {outer : Outermost} (balanced : Balanced outer text)
    (clear : pending = [] → outer.Clear stops) (wellFormed : (State.plain pending).WellFormed)
    (unnested : '>' ∉ pending) : Passes stops pending text := by
  induction balanced generalizing pending with
  | nil => exact .nil
  | @char outer c rest ordinary allowed _ ih =>
    have noStop : (State.plain pending).stopsAt stops c = false :=
      State.stopsAt_of_pending fun empty isStop =>
        absurd allowed (by simp [(clear empty).char c isStop ordinary])
    exact (Passes.ordinary noStop wellFormed ordinary).append (ih clear wellFormed unnested)
  | @quoted outer quote body rest quotes quoted _ ih =>
    have noStop : (State.plain pending).stopsAt stops quote = false :=
      State.stopsAt_of_pending fun empty isStop =>
        absurd quotes (by simp [(clear empty).quote quote isStop])
    have string := (Passes.quoted noStop quotes quoted.stringBody).append
      (ih clear wellFormed unnested)
    simpa using string
  | @group outer opener closer inner rest closes notAngle allowed _ _ ihInner ihRest =>
    have noStop : (State.plain pending).stopsAt stops opener = false :=
      State.stopsAt_of_pending fun empty isStop =>
        absurd allowed (by simp [(clear empty).group opener isStop (by simp [closes]) inner])
    have unnestedInside : '>' ∉ closer :: pending := by
      rw [List.mem_cons, not_or]
      exact ⟨(closer?_ne_angle closes notAngle).symm, unnested⟩
    have inside : Passes stops (closer :: pending) inner :=
      ihInner (fun empty => nomatch empty) (wellFormed.cons closes) unnestedInside
    have bracket := (Passes.group noStop wellFormed closes notAngle inside).append
      (ihRest clear wellFormed unnested)
    simpa using bracket
  | @repr outer body rest reprChars _ ih =>
    have noStop : (State.plain pending).stopsAt stops '<' = false :=
      State.stopsAt_of_pending fun empty => (clear empty).angle
    have ordinary : ∀ c ∈ body, isOrdinary c = true := fun c inside =>
      isOrdinary_of_isReprChar (reprChars c inside)
    have noStops : ∀ c ∈ body, (State.plain pending).stopsAt stops c = false := fun c inside =>
      State.stopsAt_of_pending fun empty isStop =>
        absurd (reprChars c inside) (by simp [(clear empty).reprChar c isStop])
    have repr := (Passes.repr noStop wellFormed unnested ordinary noStops).append
      (ih clear wellFormed unnested)
    simpa using repr

/-! ## Cutting at the end of an expression -/

/-- The closer of a bracket does not stand by itself, so it may be the stop. -/
theorem anything_clear (closer : Char) (closes : ∃ opener, closer? opener = some closer) :
    Outermost.anything.Clear [closer] := by
  rcases closes with ⟨opener, closes⟩
  rcases closer?_eq_some closes with ⟨-, rfl⟩ | ⟨-, rfl⟩ | ⟨-, rfl⟩ | ⟨-, rfl⟩ <;>
  · refine ⟨List.all_iff_forall_prop.mp (by decide), List.all_iff_forall_prop.mp (by decide), ?_,
      by decide, List.all_iff_forall_prop.mp (by decide)⟩
    simp [closer?]

/-- A text in brackets is one bracket when the walk to its closer goes past the text. -/
theorem skipGroup?_of_passes {opener closer : Char} {inner : List Char}
    (closes : closer? opener = some closer) (passes : Passes [closer] [] inner)
    (rest : List Char) :
    skipGroup? (opener :: (inner ++ closer :: rest)) =
      some (opener :: inner ++ [closer], rest) := by
  have ends : Ends [closer] (closer :: rest) := by
    rw [Ends, isStop_singleton (ascii_of_closer? closes), beq_self_eq_true]
  exact skipGroup?_eq_some_iff.mpr ⟨opener, closer, inner, closes, rfl, by simp,
    cut?_eq_some_iff.mpr ⟨rfl, passes _, ends⟩⟩

/-- A balanced expression in brackets is one bracket. -/
theorem skipGroup?_of_balanced {opener closer : Char} {inner : List Char}
    (closes : closer? opener = some closer) (balanced : Balanced .anything inner)
    (rest : List Char) :
    skipGroup? (opener :: (inner ++ closer :: rest)) =
      some (opener :: inner ++ [closer], rest) :=
  skipGroup?_of_passes closes
    (balanced.passes (fun _ => anything_clear closer ⟨opener, closes⟩) State.wellFormed_initial
      List.not_mem_nil) rest

/-- A text that a walk goes past may stand in front of what is cut. -/
theorem cut?_prepend {piece taken left : List Char} (passes : Passes stops [] piece)
    (found : cut? stops (taken ++ left) = some (taken, left)) :
    cut? stops (piece ++ taken ++ left) = some (piece ++ taken, left) := by
  obtain ⟨-, reach, ends⟩ := cut?_eq_some_iff.mp found
  exact cut?_eq_some_iff.mpr ⟨rfl, (passes (taken ++ left)).trans reach, ends⟩

theorem Passes.blank (blank : Blank text) (noBlank : ∀ c ∈ stops, isBlank c = false) :
    Passes stops [] text := by
  refine .of_forall (fun c inside => State.stopsAt_of_pending fun _ isStop => ?_)
    State.wellFormed_initial fun c inside => isOrdinary_of_isBlank (blank c inside)
  exact absurd (blank c inside) (by simp [noBlank c isStop])

/-- A text without blanks around it is cut where the blanks behind it end. -/
theorem Passes.cut? {rest : List Char} (passes : Passes stops [] text) (trimmed : Trimmed text)
    (noBlank : ∀ c ∈ stops, isBlank c = false) (ends : Ends stops (trimStart rest)) :
    ∃ taken, Bracket.cut? stops (text ++ rest) = some (taken, trimStart rest) ∧
      trim taken = text := by
  obtain ⟨after, blank, same⟩ := exists_eq_append_trimStart rest
  have whole := passes.append (.blank blank noBlank)
  refine ⟨text ++ after, cut?_eq_some_iff.mpr ⟨?_, whole _, ends⟩, ?_⟩
  · rw [List.append_assoc, ← same]
  · exact trim_append_of_blank trimmed blank

/-! ## The structural brackets of an expression -/

/-- The structural brackets in pairs. -/
def StructuralPair (opener closer : Char) : Prop :=
  (opener = '(' ∧ closer = ')') ∨ (opener = '[' ∧ closer = ']')

variable {opener closer : Char}

theorem StructuralPair.closer_ne (pair : StructuralPair opener closer) : closer ≠ opener := by
  rcases pair with ⟨rfl, rfl⟩ | ⟨rfl, rfl⟩ <;> decide

theorem StructuralPair.ne_of_not_structural (pair : StructuralPair opener closer) {c : Char}
    (other : isStructural c = false) : c ≠ opener ∧ c ≠ closer := by
  rcases pair with ⟨rfl, rfl⟩ | ⟨rfl, rfl⟩ <;> constructor <;> rintro rfl <;> cases other

theorem isStructural_of_isOrdinary {c : Char} (ordinary : isOrdinary c = true) :
    isStructural c = false := by
  by_contra structural
  simp only [isStructural, Bool.not_eq_false, Bool.or_eq_true, decide_eq_true_eq] at structural
  rcases structural with ((rfl | rfl) | rfl) | rfl <;> cases ordinary

theorem isStructural_of_isQuote {c : Char} (quotes : isQuote c = true) :
    isStructural c = false := by
  simp only [isQuote, Bool.or_eq_true, decide_eq_true_eq] at quotes
  rcases quotes with rfl | rfl <;> rfl

theorem QuotedText.not_structural {quote : Char} (quoted : QuotedText quote text) :
    ∀ c ∈ text, isStructural c = false := by
  induction quoted with
  | nil => exact fun c inside => nomatch inside
  | char _ _ other _ ih => exact List.forall_mem_cons.mpr ⟨other, ih⟩
  | escape other _ ih =>
    exact List.forall_mem_cons.mpr ⟨by decide, List.forall_mem_cons.mpr ⟨other, ih⟩⟩

theorem StructuralPair.neutral_of_forall (pair : StructuralPair opener closer)
    (other : ∀ c ∈ text, isStructural c = false) : Neutral opener closer text :=
  .of_forall fun c inside => pair.ne_of_not_structural (other c inside)

/-- A bracket is gone past when its content is. -/
theorem StructuralPair.neutral_bracket (pair : StructuralPair opener closer) {first last : Char}
    (closes : closer? first = some last) (inside : Neutral opener closer text) :
    Neutral opener closer (first :: (text ++ [last])) := by
  by_cases same : first = opener
  · have sameLast : last = closer := by
      rcases pair with ⟨rfl, rfl⟩ | ⟨rfl, rfl⟩ <;> subst same <;> cases closes <;> rfl
    subst same sameLast
    exact .bracket pair.closer_ne inside
  · have others : first ≠ closer ∧ last ≠ opener ∧ last ≠ closer := by
      rcases closer?_eq_some closes with ⟨rfl, rfl⟩ | ⟨rfl, rfl⟩ | ⟨rfl, rfl⟩ | ⟨rfl, rfl⟩ <;>
        rcases pair with ⟨rfl, rfl⟩ | ⟨rfl, rfl⟩ <;> simp_all
    exact (Neutral.singleton same others.1).append
      (inside.append (.singleton others.2.1 others.2.2))

/-- The structural matcher goes past a balanced expression at any depth. -/
theorem Balanced.neutral {outer : Outermost} (balanced : Balanced outer text)
    (pair : StructuralPair opener closer) : Neutral opener closer text := by
  induction balanced with
  | nil => exact .nil
  | char ordinary _ _ ih =>
    obtain ⟨notOpener, notCloser⟩ :=
      pair.ne_of_not_structural (isStructural_of_isOrdinary ordinary)
    exact (Neutral.singleton notOpener notCloser).append ih
  | @quoted outer quote body rest quotes quoted _ ih =>
    have string : ∀ c ∈ quote :: (body ++ [quote]), isStructural c = false := by
      simpa [or_imp, forall_and, isStructural_of_isQuote quotes] using quoted.not_structural
    have whole := (pair.neutral_of_forall string).append ih
    simpa using whole
  | @group outer first last inner rest closes _ _ _ _ ihInner ihRest =>
    have whole := (pair.neutral_bracket closes ihInner).append ihRest
    simpa using whole
  | @repr outer body rest reprChars _ ih =>
    have repr : ∀ c ∈ '<' :: (body ++ ['>']), isStructural c = false := by
      intro c within
      rcases List.mem_cons.mp within with rfl | within
      · rfl
      rcases List.mem_append.mp within with inside | last
      · exact isStructural_of_isOrdinary (isOrdinary_of_isReprChar (reprChars c inside))
      · cases List.mem_singleton.mp last
        rfl
    have whole := (pair.neutral_of_forall repr).append ih
    simpa using whole

end CallSig.Bracket
