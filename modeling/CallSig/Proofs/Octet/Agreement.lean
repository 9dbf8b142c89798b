import CallSig.Proofs.Bracket.Matching
import CallSig.Proofs.Bracket.Nesting
import CallSig.Proofs.Octet.Reader
import CallSig.Proofs.Parse.Taken

/-!
# The reader by places is safe

The reader by places gives what `parseSignature` gives, for every text, so it
meets no fault: no slice of it fails, no bracket is closed that is not open, and
every loop comes nearer to its end (`readSignature_eq`). Each of its functions is
compared with the one on characters that does the same work.
-/

namespace CallSig.Octet

open CallSig.Bracket CallSig.Parse CallSig.Text

variable {opener closer : Char} {text inner rest taken left : List Char}

theorem bind_ok {α β : Type} (value : α) (next : α → Except Fault β) :
    (Except.ok value >>= next) = next value := rfl

theorem pure_eq_ok {α : Type} (value : α) : (pure value : Except Fault α) = .ok value := rfl

/-! ## Brackets -/

/-- The close that is looked for octet by octet, at a depth counted from one, is the one
that is found by characters. -/
theorem closeFrom_eq (opener closer : Char) (depth index : Nat) (text : List Char) :
    closeFrom opener closer (depth + 1) index text =
      .ok ((splitClose? opener closer depth text).map
        fun (inner, _) => index + utf8Length inner) := by
  fun_induction splitClose? opener closer depth text generalizing index with
  | case1 => rfl
  | case2 depth rest ih =>
    rw [closeFrom, if_pos rfl, ih]
    cases splitClose? opener closer (depth + 1) rest <;> simp [Nat.add_assoc]
  | case3 rest notOpener =>
    rw [closeFrom, if_neg notOpener, if_pos rfl, if_neg (Nat.succ_ne_zero 0), if_pos rfl]
    rfl
  | case4 rest depth notOpener ih =>
    rw [closeFrom, if_neg notOpener, if_pos rfl, if_neg (Nat.succ_ne_zero _),
      Nat.add_sub_cancel, if_neg (Nat.succ_ne_zero _), ih]
    cases splitClose? opener closer depth rest <;> simp [Nat.add_assoc]
  | case5 depth c rest notOpener notCloser ih =>
    rw [closeFrom, if_neg notOpener, if_neg notCloser, ih]
    cases splitClose? opener closer depth rest <;> simp [Nat.add_assoc]

/-- The count of open brackets does not go below zero. -/
theorem matchingClose_eq (text : List Char) (opener closer : Char) :
    matchingClose (.ofList text) opener closer =
      .ok ((group? opener closer text).map fun (inner, _) => utf8Length (opener :: inner)) := by
  rw [matchingClose, String.toList_ofList]
  cases text with
  | nil => rfl
  | cons c rest =>
    simp only [group?]
    split
    · next same =>
      subst same
      rw [closeFrom_eq]
      rfl
    · rfl

theorem utf8Size_of_isStop {stops : List Char} {c : Char} (stop : Bracket.isStop stops c = true) :
    c.utf8Size = 1 :=
  utf8Size_of_ascii (ascii_of_isStop stop)

theorem scanTo?_ofList (text stops : List Char) :
    scanTo? (.ofList text) stops = (cut? stops text).map fun (taken, _) => utf8Length taken := by
  rw [scanTo?_eq, Bracket.scanTo?, String.toList_ofList]

theorem skipGroup?_ne_nil (found : skipGroup? text = some (taken, left)) : taken ≠ [] := by
  obtain ⟨opener, closer, inner, -, rfl, -, -⟩ := skipGroup?_eq_some_iff.mp found
  exact List.cons_ne_nil _ _

/-- The place of the last octet of a bracket. -/
theorem groupEnd_eq (text : List Char) :
    groupEnd (.ofList text) =
      .ok ((skipGroup? text).map fun (group, _) => utf8Length group - 1) := by
  rw [groupEnd, String.toList_ofList]
  cases text with
  | nil => rfl
  | cons c rest =>
    simp only [List.head?_cons, skipGroup?]
    cases closes : closer? c with
    | none => rfl
    | some closer =>
      have inner : sliceFrom (.ofList (c :: rest)) c.utf8Size = .ok (.ofList rest) := by
        simpa using sliceFrom_append [c] rest
      simp only [inner, bind_ok, scanTo?_ofList]
      cases found : cut? [closer] rest with
      | none => rfl
      | some both =>
        rcases both with ⟨inner, left⟩
        have whole := cut?_eq_some found
        rcases cut?_stop found with rfl | ⟨d, after, rfl, isStop⟩
        · simp [whole, utf8ByteSize_ofList, pure_eq_ok]
        · have size := utf8Size_of_isStop isStop
          simp [whole, utf8ByteSize_ofList, pure_eq_ok, size]
          omega

/-! ## Types and default values -/

theorem opensOptionalGroup_eq (rest : List Char) :
    opensOptionalGroup (.ofList ('[' :: rest)) = .ok (startsOptionalGroup rest) := by
  have inner : sliceFrom (.ofList ('[' :: rest)) 1 = .ok (.ofList rest) :=
    sliceFrom_append ['['] rest
  rw [opensOptionalGroup, inner, bind_ok, String.toList_ofList, pure_eq_ok]

/-- A pass over a type ends at the stop that is found, or behind the subscript
there. -/
theorem typePass_eq (before text : List Char) :
    typePass (.ofList (before ++ text)) (utf8Length before) =
      .ok (match cut? typeStops text with
        | none => none
        | some (taken, '[' :: rest) =>
          if startsOptionalGroup rest then some (.ends (utf8Length (before ++ taken)))
          else (skipGroup? ('[' :: rest)).map fun (subscript, _) =>
            .goesOn (utf8Length (before ++ (taken ++ subscript)))
        | some (taken, _) => some (.ends (utf8Length (before ++ taken)))) := by
  rw [typePass, sliceFrom_append, bind_ok, scanTo?_ofList]
  cases found : cut? typeStops text with
  | none => rfl
  | some both =>
    rcases both with ⟨taken, left⟩
    have tail : sliceFrom (.ofList (before ++ text)) (utf8Length before + utf8Length taken) =
        .ok (.ofList left) := by
      have sliced := sliceFrom_append (before ++ taken) left
      rwa [List.append_assoc, ← cut?_eq_some found, utf8Length_append] at sliced
    simp only [Option.map_some, tail, bind_ok, String.toList_ofList]
    rcases left with _ | ⟨c, rest⟩
    · simp [pure_eq_ok]
    by_cases bracket : c = '['
    · subst bracket
      simp only [List.head?_cons, ne_eq, not_true, if_false, opensOptionalGroup_eq, bind_ok,
        groupEnd_eq]
      cases startsOptionalGroup rest with
      | true => simp [pure_eq_ok]
      | false =>
        cases skipped : skipGroup? ('[' :: rest) with
        | none => rfl
        | some both =>
          rcases both with ⟨subscript, after⟩
          have pos := utf8Length_pos (skipGroup?_ne_nil skipped)
          simp [pure_eq_ok]
          omega
    · simp [bracket, pure_eq_ok]

/-- Each pass over a type goes further in the text and stays in it. -/
theorem typeEnd_eq (before text : List Char) :
    typeEnd (.ofList (before ++ text)) (utf8Length before) =
      .ok ((cutType? text).map fun (taken, _) => utf8Length (before ++ taken)) := by
  fun_induction cutType? text generalizing before with
  | case1 text found =>
    rw [typeEnd, typePass_eq, found]
    rfl
  | case2 text taken rest found optional =>
    rw [typeEnd, typePass_eq, found]
    simp only [optional, if_pos, bind_ok]
    rfl
  | case3 text taken rest found required skipped =>
    rw [typeEnd, typePass_eq, found]
    simp only [required, skipped]
    rfl
  | case4 text taken rest found required subscript after skipped ih =>
    have whole : before ++ text = before ++ (taken ++ subscript) ++ after := by
      rw [cut?_eq_some found, skipGroup?_eq_some skipped]
      simp
    have again := ih (before ++ (taken ++ subscript))
    have pos := utf8Length_pos (skipGroup?_ne_nil skipped)
    have progress : utf8Length before < utf8Length (before ++ (taken ++ subscript)) ∧
        utf8Length (before ++ (taken ++ subscript)) ≤
          (String.ofList (before ++ text)).utf8ByteSize := by
      rw [utf8ByteSize_ofList, whole]
      simp only [utf8Length_append]
      omega
    rw [typeEnd, typePass_eq, found]
    simp only [required, skipped, Bool.false_eq_true, if_false, Option.map_some, bind_ok,
      if_pos progress]
    rw [whole, again]
    cases cutType? after <;> simp
  | case5 text taken left notBracket found =>
    rw [typeEnd, typePass_eq, found]
    simp [bind_ok, pure_eq_ok]

/-- A text and what follows it, as strings. -/
def asStrings : List Char × List Char → String × String
  | (text, rest) => (.ofList text, .ofList rest)

/-- The slices of a type and of the text behind it are its characters. -/
theorem readType_eq (text : List Char) :
    readType (.ofList text) = .ok ((splitType? text).map asStrings) := by
  have stop := typeEnd_eq [] text
  rw [utf8Length_nil, List.nil_append] at stop
  rw [readType, stop, bind_ok, splitType?]
  cases found : cutType? text with
  | none => rfl
  | some both =>
    rcases both with ⟨taken, left⟩
    have whole := (cutType?_eq_some_iff.mp found).1
    simp only [Option.map_some, List.nil_append, whole, slice_prefix, sliceFrom_append, bind_ok,
      trimmed, String.toList_ofList]
    rfl

/-- The place of the last octet of a bracket that is a value. -/
theorem valueEnd_eq (text : List Char) :
    valueEnd (.ofList text) =
      .ok ((leadingBracket? text).map fun (value, _) => utf8Length value - 1) := by
  rw [valueEnd, String.toList_ofList]
  cases text with
  | nil => rfl
  | cons c rest =>
    simp only [List.head?_cons, leadingBracket?]
    split
    · exact groupEnd_eq _
    · rfl

/-- The slices of a default value and of the text behind it are its characters. -/
theorem readDefault_eq (text : List Char) :
    readDefault (.ofList text) = .ok ((splitDefault? text).map asStrings) := by
  rw [readDefault, trimmedStart, String.toList_ofList, valueEnd_eq, bind_ok, splitDefault?]
  cases leading : leadingBracket? (trimStart text) with
  | some both =>
    rcases both with ⟨value, left⟩
    obtain ⟨_, _, _, -, -, -, skipped⟩ := leadingBracket?_eq_some leading
    have whole := skipGroup?_eq_some skipped
    have close : utf8Length value - 1 + 1 = utf8Length value :=
      Nat.succ_pred_eq_of_pos (utf8Length_pos (skipGroup?_ne_nil skipped))
    simp only [Option.map_some, close, whole, slice_prefix, sliceFrom_append, bind_ok]
    rfl
  | none =>
    simp only [Option.map_none, scanTo?_ofList]
    cases found : cut? defaultStops (trimStart text) with
    | none => rfl
    | some both =>
      rcases both with ⟨taken, left⟩
      have whole := cut?_eq_some found
      simp only [Option.map_some, whole, slice_prefix, sliceFrom_append, bind_ok, trimmed,
        String.toList_ofList]
      rfl

/-! ## Arguments -/

/-- The text that reading goes on with behind an argument. -/
def remaining? : After → Option String
  | .more rest => some (.ofList rest)
  | .finished => none
  | .abandoned _ => none

/-- What is attached to an argument is what the turn reads. -/
def Attaches (turn : Turn) (result : Except Fault (Argument × Option String)) : Prop :=
  ∃ arg after, turn = .argument arg after ∧ result = .ok (arg, remaining? after)

/-- A default value is attached from slices as it is read from characters. -/
theorem attachDefault_attaches (arg : Argument) (text : List Char) :
    Attaches (Parse.readDefault arg text) (attachDefault arg (.ofList text)) := by
  rw [attachDefault, readDefault_eq, bind_ok, Parse.readDefault]
  cases splitDefault? text with
  | none => exact ⟨_, _, rfl, rfl⟩
  | some both => exact ⟨_, _, rfl, rfl⟩

theorem attachOptionalDefault_attaches (arg : Argument) (text : List Char) :
    Attaches (readOptionalDefault arg text) (attachOptionalDefault arg (.ofList text)) := by
  rw [attachOptionalDefault, String.toList_ofList]
  rcases text with _ | ⟨c, rest⟩
  · exact ⟨_, _, rfl, rfl⟩
  by_cases mark : c = '='
  · subst mark
    exact attachDefault_attaches arg rest
  · refine ⟨arg, .more (c :: rest), by simp [readOptionalDefault, mark], ?_⟩
    split
    · next same => exact absurd (List.cons.inj same).1 mark
    · rfl

/-- A type is attached from slices as it is read from characters. -/
theorem attachType_attaches (name : String) (arg : Argument) (text : List Char) :
    Attaches (Parse.readType name arg text) (attachType arg (.ofList text)) := by
  rw [attachType, readType_eq, bind_ok, Parse.readType]
  cases splitType? text with
  | none => exact ⟨_, _, rfl, rfl⟩
  | some both => exact attachOptionalDefault_attaches _ _

/-- The text behind a delimiter is a slice, since the delimiter is one octet. -/
theorem sliceFrom_delimiter {c : Char} (one : c.utf8Size = 1) (taken rest : List Char) :
    sliceFrom (.ofList (taken ++ c :: rest)) (utf8Length taken + 1) = .ok (.ofList rest) := by
  have sliced := sliceFrom_append (taken ++ [c]) rest
  simpa [one] using sliced

theorem mem_nameStops {c : Char} (stop : Bracket.isStop nameStops c = true) :
    c = ',' ∨ c = ':' ∨ c = '=' ∨ c = ')' ∨ c = '[' := by
  simpa [nameStops] using mem_of_isStop stop

/-- What stands behind a name is attached as the character that it starts with says. -/
theorem attachRest_attaches (name : String) (arg : Argument) (taken after : List Char)
    (ends : Ends nameStops after) :
    Attaches (readAfterName name arg after)
      (attachRest arg after.head? (.ofList (taken ++ after)) (utf8Length taken)) := by
  cases after with
  | nil =>
    have tail := sliceFrom_append taken []
    exact ⟨arg, .more [], rfl, by simp only [attachRest, List.head?_nil, tail, bind_ok]; rfl⟩
  | cons c rest =>
    have behind := sliceFrom_delimiter (utf8Size_of_isStop ends) taken rest
    have tail := sliceFrom_append taken (c :: rest)
    rcases mem_nameStops ends with rfl | rfl | rfl | rfl | rfl
    · exact ⟨arg, .more rest, rfl, by simp only [attachRest, List.head?_cons, behind, bind_ok]; rfl⟩
    · simp only [attachRest, List.head?_cons, behind, bind_ok]
      exact attachType_attaches name arg rest
    · simp only [attachRest, List.head?_cons, behind, bind_ok]
      exact attachDefault_attaches arg rest
    · exact ⟨arg, .finished, rfl, rfl⟩
    · exact ⟨arg, .more ('[' :: rest), rfl,
        by simp only [attachRest, List.head?_cons, tail, bind_ok]; rfl⟩

/-! ## Lists -/

/-- The signature that a turn which is no group leaves, and the text that it
leaves. -/
def outcome (signature : Signature) : Turn → Signature × Option String
  | .argument arg after => (push signature arg, remaining? after)
  | .skip rest => (signature, some (.ofList rest))
  | _ => (signature, none)

/-- A name in parentheses is read from slices as from characters. -/
theorem readGroupedName_eq (signature : Signature) (text : List Char) :
    readGroupedName signature (.ofList ('(' :: text)) =
      .ok (outcome signature (Parse.readGroupedName text)) := by
  rw [readGroupedName, matchingClose_eq, bind_ok, group?, if_pos rfl, Parse.readGroupedName]
  cases found : splitClose? '(' ')' 0 text with
  | none => rfl
  | some both =>
    rcases both with ⟨inner, rest⟩
    have whole : '(' :: text = '(' :: inner ++ [')'] ++ rest := by
      rw [splitClose?_eq_some found]
      simp
    have close : utf8Length ('(' :: inner) + 1 = utf8Length ('(' :: inner ++ [')']) := by
      rw [utf8Length_append]
      rfl
    obtain ⟨arg, after, turn, result⟩ := attachOptionalDefault_attaches
      (.named (String.ofList ('(' :: inner ++ [')']))) (trimStart rest)
    simp only [Option.map_some, close, whole, slice_prefix, sliceFrom_append, bind_ok, trimmedStart,
      String.toList_ofList, turn, result]
    rfl

theorem readNameless_eq (signature : Signature) (taken after : List Char)
    (ends : Ends nameStops after) :
    readNameless signature after.head? (.ofList (taken ++ after)) (utf8Length taken) =
      .ok (outcome signature (Parse.readNameless after)) := by
  cases after with
  | nil => rfl
  | cons c rest =>
    have behind := sliceFrom_delimiter (utf8Size_of_isStop ends) taken rest
    rcases mem_nameStops ends with rfl | rfl | rfl | rfl | rfl
    · simp only [readNameless, List.head?_cons, behind, bind_ok]
      rfl
    · simp only [readNameless, List.head?_cons, behind, bind_ok]
      rfl
    · simp only [readNameless, List.head?_cons, behind, bind_ok]
      rfl
    · rfl
    · rfl

theorem readName_eq (signature : Signature) (text : List Char) :
    readName signature (.ofList text) =
      .ok (outcome signature (Parse.readName signature.args.getLast? text)) := by
  rw [readName, scanTo?_ofList, Parse.readName]
  cases found : cut? nameStops text with
  | none => rfl
  | some both =>
    rcases both with ⟨taken, after⟩
    have whole := cut?_eq_some found
    obtain ⟨-, -, ends⟩ := cut?_eq_some_iff.mp found
    simp only [Option.map_some, whole, slice_prefix, sliceFrom_append, bind_ok, trimmed,
      String.toList_ofList]
    cases name : trim taken with
    | nil =>
      rw [if_pos (by simp)]
      exact readNameless_eq signature taken after ends
    | cons c kept =>
      rw [if_neg (by simp)]
      obtain ⟨arg, rest, turn, result⟩ := attachRest_attaches (String.ofList (c :: kept))
        (namedArgument signature.args.getLast? (String.ofList (c :: kept))) taken after ends
      simp only [turn, result, bind_ok]
      rfl

/-- Separators are dropped from a slice as from its characters. -/
theorem dropSeparators_ofList (body : List Char) :
    dropSeparators (.ofList body) = .ofList (body.dropWhile isSeparator) := by
  rw [dropSeparators, String.toList_ofList]

/-- Goes on with the text that is left, which has to be shorter. -/
def goOn (depth : Nat) (text : String) (next : Signature × Option String) :
    Except Fault Signature :=
  match next.2 with
  | none => .ok next.1
  | some remaining =>
    if remaining.utf8ByteSize < text.utf8ByteSize then readList depth next.1 remaining
    else .error .noProgress

variable {depth : Nat} {signature : Signature} {body : List Char}

/-- An argument, or a separator, is read as the turn says. -/
theorem readList_eq_goOn (notGroup : ∀ text, body.dropWhile isSeparator ≠ '[' :: text) :
    readList depth signature (.ofList body) =
      goOn depth (.ofList body) (outcome signature
        (nextTurn depth signature.args.getLast? body)) := by
  rw [readList, dropSeparators_ofList, String.toList_ofList, nextTurn]
  rcases rest : body.dropWhile isSeparator with _ | ⟨c, tail⟩
  · rfl
  simp only [List.head?_cons]
  split
  · next none => cases none
  · next group =>
    cases group
    exact absurd rest (notGroup tail)
  · next d notBracket same =>
    cases same
    by_cases paren : c = '('
    · subst paren
      simp only [if_true, readGroupedName_eq, bind_ok]
      rfl
    · simp only [if_neg paren, readName_eq, bind_ok]
      rfl

/-- A group is read as the turn says. -/
theorem readList_of_group (group : body.dropWhile isSeparator = '[' :: text) :
    readList depth signature (.ofList body) =
      match readGroup depth text with
      | .group inner rest => do
        let group ← readList (depth + 1) .empty (.ofList inner)
        goOn depth (.ofList body) (pushGroup signature group, some (.ofList rest))
      | _ => .ok signature := by
  rw [readList, dropSeparators_ofList, String.toList_ofList, group, readGroup]
  simp only [List.head?_cons]
  split
  · rfl
  rw [matchingClose_eq, bind_ok, group?, if_pos rfl]
  cases found : splitClose? '[' ']' 0 text with
  | none => rfl
  | some both =>
    rcases both with ⟨inner, rest⟩
    have openSize : '['.utf8Size = 1 := rfl
    have closeSize : ']'.utf8Size = 1 := rfl
    have whole := splitClose?_eq_some found
    have innerSlice : slice (.ofList ('[' :: text)) 1 (utf8Length ('[' :: inner)) =
        .ok (.ofList inner) := by
      have sliced := slice_append ['['] inner (']' :: rest)
      simpa [whole, openSize] using sliced
    have restSlice : sliceFrom (.ofList ('[' :: text)) (utf8Length ('[' :: inner) + 1) =
        .ok (.ofList rest) := by
      have sliced := sliceFrom_append ('[' :: (inner ++ [']'])) rest
      simpa [whole, openSize, closeSize, Nat.add_assoc] using sliced
    simp only [Option.map_some, innerSlice, restSlice, bind_ok]
    rfl

theorem readGroup_of_nextTurn {previous : Option Argument}
    (turn : nextTurn depth previous body = .group inner rest) :
    ∃ text, body.dropWhile isSeparator = '[' :: text := by
  unfold nextTurn at turn
  split at turn
  · cases turn
  · next text start => exact ⟨text, start⟩
  · unfold Parse.readGroupedName at turn
    split at turn
    · cases turn
    · obtain ⟨arg, after, same, -⟩ := attachOptionalDefault_attaches _ _
      rw [same] at turn
      cases turn
  · unfold Parse.readName at turn
    split at turn
    · cases turn
    next taken after found =>
    obtain ⟨-, -, ends⟩ := cut?_eq_some_iff.mp found
    split at turn
    · unfold Parse.readNameless at turn
      split at turn <;> cases turn
    · obtain ⟨arg, rest, same, -⟩ := attachRest_attaches _ _ taken after ends
      rw [same] at turn
      cases turn

theorem readGroup_cases (depth : Nat) (text : List Char) :
    (∃ inner rest, readGroup depth text = .group inner rest) ∨
      ∃ why, readGroup depth text = .abandoned why := by
  unfold readGroup
  split
  · exact .inr ⟨_, rfl⟩
  split
  · exact .inr ⟨_, rfl⟩
  · exact .inl ⟨_, _, rfl⟩

/-- One pass over a list does what the turn says. -/
theorem readList_eq_turn (depth : Nat) (signature : Signature) (body : List Char) :
    readList depth signature (.ofList body) =
      match nextTurn depth signature.args.getLast? body with
      | .group inner rest => do
        let group ← readList (depth + 1) .empty (.ofList inner)
        goOn depth (.ofList body) (pushGroup signature group, some (.ofList rest))
      | turn => goOn depth (.ofList body) (outcome signature turn) := by
  by_cases group : ∃ text, body.dropWhile isSeparator = '[' :: text
  · rcases group with ⟨text, start⟩
    have turn : nextTurn depth signature.args.getLast? body = readGroup depth text := by
      rw [nextTurn, start]
      rfl
    rw [turn, readList_of_group start]
    rcases readGroup_cases depth text with ⟨inner, rest, same⟩ | ⟨why, same⟩
    · rw [same]
    · rw [same]
      rfl
  · rw [readList_eq_goOn fun text start => group ⟨text, start⟩]
    split
    · next turn => exact absurd (readGroup_of_nextTurn turn) group
    · rfl

/-- What a turn leaves is shorter than the list. -/
theorem goOn_shorter {next : Signature} (shorter : rest.length < body.length)
    (whole : ∃ taken, body = taken ++ rest) :
    goOn depth (.ofList body) (next, some (.ofList rest)) =
      readList depth next (.ofList rest) := by
  rcases whole with ⟨taken, rfl⟩
  have nonempty : taken ≠ [] := by
    intro same
    subst same
    exact absurd shorter (Nat.lt_irrefl _)
  have pos := utf8Length_pos nonempty
  have less : (String.ofList rest).utf8ByteSize < (String.ofList (taken ++ rest)).utf8ByteSize := by
    rw [utf8ByteSize_ofList, utf8ByteSize_ofList, utf8Length_append]
    omega
  simp only [goOn, if_pos less]

/-- The reader by places reads a list as `Parse.readList` does. -/
theorem readList_eq (depth : Nat) (previous : Option Argument) (body : List Char)
    (signature : Signature) (same : previous = signature.args.getLast?) :
    readList depth signature (.ofList body) =
      .ok ⟨signature.args ++ (Parse.readList depth previous body).args,
        signature.variadic || (Parse.readList depth previous body).variadic⟩ := by
  have below := Turn.below_nextTurn depth previous body
  have takes := Turn.takes_nextTurn depth previous body
  fun_induction Parse.readList depth previous body generalizing signature with
  | case1 depth previous body turn =>
    subst same
    rw [readList_eq_turn, turn]
    simp [outcome, goOn, Reading.empty]
  | case2 depth previous body why turn =>
    subst same
    rw [readList_eq_turn, turn]
    simp [outcome, goOn, Reading.abandoned]
  | case3 depth previous body rest turn ih =>
    subst same
    rw [turn] at below takes
    rw [readList_eq_turn, turn]
    simp only [outcome, goOn_shorter below takes]
    exact ih signature rfl (Turn.below_nextTurn _ _ _) (Turn.takes_nextTurn _ _ _)
  | case4 depth previous body inner rest turn group ihInner ihRest =>
    subst same
    rw [turn] at below takes
    rcases takes with ⟨gap, whole⟩
    have behind : ∃ taken, body = taken ++ rest := ⟨gap ++ '[' :: (inner ++ [']']), by simp [whole]⟩
    have groupRead : readList (depth + 1) .empty (.ofList inner) =
        .ok ⟨(Parse.readList (depth + 1) none inner).args,
          (Parse.readList (depth + 1) none inner).variadic⟩ := by
      simpa [Signature.empty] using
        ihInner .empty rfl (Turn.below_nextTurn _ _ _) (Turn.takes_nextTurn _ _ _)
    rw [readList_eq_turn, turn]
    simp only [groupRead, bind_ok, goOn_shorter below.2 behind]
    have last : group.args.getLast?.or signature.args.getLast? =
        (pushGroup signature ⟨(Parse.readList (depth + 1) none inner).args,
          (Parse.readList (depth + 1) none inner).variadic⟩).args.getLast? := by
      simp [pushGroup, group, List.getLast?_append]
    rw [ihRest _ last (Turn.below_nextTurn _ _ _) (Turn.takes_nextTurn _ _ _)]
    simp [pushGroup, group, Reading.asOptional, Bool.or_assoc]
  | case5 depth previous body arg turn =>
    subst same
    rw [readList_eq_turn, turn]
    rfl
  | case6 depth previous body arg why turn =>
    subst same
    rw [readList_eq_turn, turn]
    rfl
  | case7 depth previous body arg rest turn ih =>
    subst same
    rw [turn] at below takes
    rcases takes with ⟨taken, whole, -⟩
    rw [readList_eq_turn, turn]
    simp only [outcome, remaining?, goOn_shorter below ⟨taken, whole⟩]
    have last : some arg = (push signature arg).args.getLast? := by simp [push]
    rw [ih _ last (Turn.below_nextTurn _ _ _) (Turn.takes_nextTurn _ _ _)]
    simp [push, Reading.single, Bool.or_assoc]

/-- Reading by places meets no fault, and reads what is read by characters. -/
theorem readSignature_eq (text : String) : readSignature text = .ok (parseSignature text) := by
  rcases text.exists_eq_ofList with ⟨chars, rfl⟩
  rw [readSignature, matchingClose_eq, bind_ok, parseSignature, Parse.readSignature,
    String.toList_ofList]
  cases list : group? '(' ')' chars with
  | none =>
    simp only [Option.map_none]
    split <;> rfl
  | some both =>
    rcases both with ⟨body, after⟩
    have openSize : '('.utf8Size = 1 := rfl
    have inner : slice (.ofList chars) 1 (utf8Length ('(' :: body)) = .ok (.ofList body) := by
      have sliced := slice_append ['('] body (')' :: after)
      simpa [group?_eq_some list, openSize] using sliced
    simp only [Option.map_some, inner, bind_ok]
    rw [readList_eq 0 none body .empty rfl]
    simp [Signature.empty]

end CallSig.Octet
