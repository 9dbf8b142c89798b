import CallSig.Proofs.Yaml.Escape

/-!
# Scalars, told apart

What is written for a text says which text it is, whatever comes behind: the
first character says the style (`styleAt_writeScalar`), and within a style the
text can be made out up to its end (`writeScalar_inj`). A literal block has no
mark at its end; it ends where a line stands further left (`Outside`).
-/

namespace CallSig.Yaml

variable {column other : Nat} {c d : Char} {x y : List Char}

/-- A mark that does not stand in front divides two texts at the same place. -/
theorem append_cons_inj {mark : Char} : ∀ {a b : List Char}, mark ∉ a → mark ∉ b →
    a ++ mark :: x = b ++ mark :: y → a = b ∧ x = y
  | [], [], _, _, same => ⟨rfl, (List.cons.inj same).2⟩
  | [], _ :: _, _, absent, same =>
    absurd (List.mem_cons.mpr (.inl (List.cons.inj same).1)) absent
  | _ :: _, [], absent, _, same =>
    absurd (List.mem_cons.mpr (.inl (List.cons.inj same).1.symm)) absent
  | c :: a, d :: b, absentA, absentB, same => by
    rw [List.mem_cons, not_or] at absentA absentB
    obtain ⟨rfl, tail⟩ := List.cons.inj same
    obtain ⟨rfl, rest⟩ := append_cons_inj absentA.2 absentB.2 tail
    exact ⟨rfl, rest⟩

/-! ## Indentation -/

theorem indent_add (column more : Nat) :
    indent (column + more) = indent column ++ indent more :=
  List.replicate_append_replicate.symm

/-- Lines that are indented less and start with a visible character are no lines
at the column. -/
theorem indent_append_ne (less : other < column) (visible : c ≠ ' ') (x y : List Char) :
    indent other ++ c :: x ≠ indent column ++ y := by
  intro same
  obtain ⟨more, rfl⟩ : ∃ more, column = other + (more + 1) := ⟨column - other - 1, by omega⟩
  rw [indent_add, List.append_assoc] at same
  have same := List.append_cancel_left same
  rw [indent, List.replicate_succ, List.cons_append] at same
  exact visible (List.cons.inj same).1

/-- The text is empty or starts with a line further left than the column. -/
def Outside (column : Nat) (text : List Char) : Prop :=
  text = [] ∨ ∃ (other : Nat) (c : Char) (rest : List Char),
    text = indent other ++ c :: rest ∧ other < column ∧ c ≠ ' ' ∧ isBreak c = false

/-- What stands outside a column has no line at the column. -/
theorem Outside.ne_indent_append (outside : Outside column x) (visible : y ≠ []) :
    x ≠ indent column ++ y := by
  rcases outside with rfl | ⟨other, c, rest, rfl, less, noBlank, -⟩
  · intro same
    exact visible (List.append_eq_nil_iff.mp same.symm).2
  · exact indent_append_ne less noBlank rest y

theorem isBreak_head_indent {first : Char} {rest : List Char} (unbroken : isBreak c = false)
    (start : indent column ++ c :: x = first :: rest) : isBreak first = false := by
  rcases column with _ | column
  · rw [← (List.cons.inj start).1]
    exact unbroken
  · rw [indent, List.replicate_succ, List.cons_append] at start
    rw [← (List.cons.inj start).1]
    rfl

/-! ## Lines -/

/-- What is written for a character says which one it is, and only a line end
starts with a line end. -/
structure LineCode (writeChar : Char → List Char) : Prop where
  separates : ∀ {c d : Char} {x y : List Char}, writeChar c ++ x = writeChar d ++ y → c = d
  unbroken : ∀ {c : Char}, isBreak c = false →
    ∃ first rest, writeChar c = first :: rest ∧ isBreak first = false

variable {writeChar : Char → List Char}

/-- What is written for a character of a text, with the indentation in front. -/
def writeLineChar (column : Nat) (writeChar : Char → List Char) (fresh : Bool) (c : Char) :
    List Char :=
  if isBreak c then [c] else (if fresh then indent column else []) ++ writeChar c

theorem writeLineChar_of_break (fresh : Bool) (ends : isBreak c = true) :
    writeLineChar column writeChar fresh c = [c] :=
  if_pos ends

theorem writeLineChar_of_unbroken (fresh : Bool) (unbroken : isBreak c = false) :
    writeLineChar column writeChar fresh c =
      (if fresh then indent column else []) ++ writeChar c :=
  if_neg (by simp [unbroken])

theorem writeLines_cons (fresh : Bool) (c : Char) (rest : List Char) :
    writeLines column writeChar fresh (c :: rest) =
      writeLineChar column writeChar fresh c ++ writeLines column writeChar (isBreak c) rest := by
  rw [writeLines, writeLineChar]
  split_ifs with ends <;> simp [ends]

/-- Whether a line has just ended after the text. -/
def freshAfter : Bool → List Char → Bool
  | fresh, [] => fresh
  | _, c :: rest => freshAfter (isBreak c) rest

theorem freshAfter_append (fresh : Bool) (text more : List Char) :
    freshAfter fresh (text ++ more) = freshAfter (freshAfter fresh text) more := by
  induction text generalizing fresh with
  | nil => rfl
  | cons c rest ih => exact ih (isBreak c)

theorem freshAfter_false (text : List Char) : freshAfter false text = endsInBreak text := by
  rcases List.eq_nil_or_concat text with rfl | ⟨before, last, rfl⟩
  · rfl
  · rw [List.concat_eq_append, freshAfter_append, endsInBreak, List.getLast?_concat]
    rfl

/-- The second of two texts is written as the first one leaves the line. -/
theorem writeLines_append (fresh : Bool) (text more : List Char) :
    writeLines column writeChar fresh (text ++ more) =
      writeLines column writeChar fresh text ++
        writeLines column writeChar (freshAfter fresh text) more := by
  induction text generalizing fresh with
  | nil => rfl
  | cons c rest ih =>
    rw [List.cons_append, writeLines_cons, ih, writeLines_cons, List.append_assoc]
    rfl

/-- No character of a text could be written here. -/
def Stops (column : Nat) (writeChar : Char → List Char) (fresh : Bool) (x : List Char) : Prop :=
  ∀ c z, x ≠ writeLineChar column writeChar fresh c ++ z

namespace LineCode

/-- A character within a line does not start with a line end, indented or not. -/
theorem exists_writeLineChar_eq_cons (code : LineCode writeChar) (column : Nat) (fresh : Bool)
    (unbroken : isBreak c = false) :
    ∃ first rest, writeLineChar column writeChar fresh c = first :: rest ∧
      isBreak first = false := by
  obtain ⟨first, rest, start, visible⟩ := code.unbroken unbroken
  rw [writeLineChar_of_unbroken fresh unbroken, start]
  split_ifs
  · obtain ⟨head, tail, same⟩ := List.exists_cons_of_ne_nil
      (List.append_ne_nil_of_right_ne_nil (indent column) (List.cons_ne_nil first rest))
    exact ⟨head, tail, same, isBreak_head_indent visible same⟩
  · exact ⟨first, rest, rfl, visible⟩

/-- With the indentation, too, it can be told which character is written. -/
theorem separates_line (code : LineCode writeChar) {fresh : Bool}
    (same : writeLineChar column writeChar fresh c ++ x =
      writeLineChar column writeChar fresh d ++ y) : c = d := by
  have line : ∀ {c d : Char} {x y : List Char}, isBreak c = true → isBreak d = false →
      writeLineChar column writeChar fresh c ++ x ≠
        writeLineChar column writeChar fresh d ++ y := by
    intro c d x y ends unbroken same
    obtain ⟨first, rest, start, visible⟩ := code.exists_writeLineChar_eq_cons column fresh unbroken
    rw [start, writeLineChar_of_break fresh ends] at same
    rw [(List.cons.inj same).1, visible] at ends
    cases ends
  rcases endsC : isBreak c with _ | _ <;> rcases endsD : isBreak d with _ | _
  · rw [writeLineChar_of_unbroken fresh endsC, writeLineChar_of_unbroken fresh endsD,
      List.append_assoc, List.append_assoc] at same
    exact code.separates (List.append_cancel_left same)
  · exact absurd same.symm (line endsD endsC)
  · exact absurd same (line endsC endsD)
  · rw [writeLineChar_of_break fresh endsC, writeLineChar_of_break fresh endsD] at same
    exact (List.cons.inj same).1

/-- Two texts with the same lines are the same, if it can be told where they
end. -/
theorem writeLines_inj (code : LineCode writeChar) :
    ∀ (a b : List Char) (fresh : Bool), Stops column writeChar (freshAfter fresh a) x →
      Stops column writeChar (freshAfter fresh b) y →
      writeLines column writeChar fresh a ++ x = writeLines column writeChar fresh b ++ y → a = b
  | [], [], _, _, _, _ => rfl
  | [], d :: b, fresh, stops, _, same => by
    rw [writeLines_cons, List.append_assoc] at same
    exact absurd same (stops d _)
  | c :: a, [], fresh, _, stops, same => by
    rw [writeLines_cons, List.append_assoc] at same
    exact absurd same.symm (stops c _)
  | c :: a, d :: b, fresh, stopsA, stopsB, same => by
    rw [writeLines_cons, writeLines_cons, List.append_assoc, List.append_assoc] at same
    obtain rfl := code.separates_line same
    rw [code.writeLines_inj a b (isBreak c) stopsA stopsB (List.append_cancel_left same)]

end LineCode

/-! ## The four styles -/

/-- The style that the first character of a scalar says. -/
def styleAt : List Char → Style
  | '\x27' :: _ => .single
  | '\x22' :: _ => .double
  | '|' :: _ => .literal
  | _ => .plain

/-- What the text of a plain scalar must not look like. -/
structure Plain (text : List Char) : Prop where
  unambiguous : isAmbiguous text = false
  noMarkup : startsAsMarkup text = false
  noKey : hasKeyColon text = false
  unbroken : ∀ c ∈ text, isBreak c = false

/-- A text that is written plainly looks like nothing else. -/
theorem plain_of_styleOf {text : List Char} (plain : styleOf text = .plain) : Plain text := by
  have accepted : isAmbiguous text = false ∧ refusesPlain text = false := by
    unfold styleOf wish at plain
    split_ifs at plain <;> simp_all
  obtain ⟨unambiguous, accepts⟩ := accepted
  simp only [refusesPlain, Bool.or_eq_false_iff] at accepts
  obtain ⟨⟨⟨⟨⟨⟨-, noMarkup⟩, noKey⟩, -⟩, -⟩, -⟩, noBreak⟩ := accepts
  exact ⟨unambiguous, noMarkup, noKey, by simpa using noBreak⟩

/-- A plain text starts with a character that means nothing else. -/
theorem Plain.exists_eq_cons {text : List Char} (plain : Plain text) :
    ∃ c rest, text = c :: rest ∧ indicators.contains c = false := by
  rcases text with _ | ⟨c, rest⟩
  · exact absurd plain.unambiguous (by decide)
  · have noMarkup := plain.noMarkup
    simp only [startsAsMarkup, Bool.or_eq_false_iff] at noMarkup
    exact ⟨c, rest, rfl, noMarkup.1⟩

theorem styleAt_of_noMark (noMark : indicators.contains c = false) (rest : List Char) :
    styleAt (c :: rest) = .plain := by
  rw [styleAt]
  all_goals
    rintro _ ⟨⟩
    exact absurd noMark (by decide)

/-- The first character of a scalar says its style. -/
theorem styleAt_writeScalar (column : Nat) (text x : List Char) :
    styleAt (writeScalar column text ++ x) = styleOf text := by
  rw [writeScalar]
  rcases style : styleOf text with _ | _ | _ | _
  · obtain ⟨c, rest, rfl, noMark⟩ := (plain_of_styleOf style).exists_eq_cons
    exact styleAt_of_noMark noMark _
  all_goals rfl

/-! ### Single quotes -/

/-- A character in single quotes. -/
def writeSingleChar (c : Char) : List Char :=
  if c = '\x27' then ['\x27', '\x27'] else [c]

/-- A doubled quote is told apart from every other character. -/
theorem lineCode_writeSingleChar : LineCode writeSingleChar where
  separates := by
    intro c d x y same
    unfold writeSingleChar at same
    split_ifs at same with quoteC quoteD quoteD
    · rw [quoteC, quoteD]
    · exact absurd (List.cons.inj same).1.symm quoteD
    · exact absurd (List.cons.inj same).1 quoteC
    · exact (List.cons.inj same).1
  unbroken := by
    intro c unbroken
    unfold writeSingleChar
    split_ifs
    · exact ⟨_, _, rfl, rfl⟩
    · exact ⟨c, [], rfl, unbroken⟩

theorem writeSingle_append (column : Nat) (text x : List Char) :
    writeSingle column text ++ '\n' :: x =
      '\x27' :: (writeLines column writeSingleChar false text ++
        ((if freshAfter false text then indent column else []) ++ '\x27' :: '\n' :: x)) := by
  rw [freshAfter_false]
  simp only [writeSingle, List.cons_append, List.append_assoc, List.nil_append]
  rfl

/-- A quote at the end of its line closes the text. -/
theorem stops_writeSingle (fresh : Bool) (x : List Char) :
    Stops column writeSingleChar fresh
      ((if fresh then indent column else []) ++ '\x27' :: '\n' :: x) := by
  intro c z same
  rcases ends : isBreak c with _ | _
  · rw [writeLineChar_of_unbroken fresh ends, List.append_assoc] at same
    have same := List.append_cancel_left same
    unfold writeSingleChar at same
    split_ifs at same with quote
    · cases (List.cons.inj (List.cons.inj same).2).1
    · exact quote (List.cons.inj same).1.symm
  · rw [writeLineChar_of_break fresh ends] at same
    have unbroken : isBreak c = false := by
      split_ifs at same
      · exact isBreak_head_indent rfl same
      · rw [← (List.cons.inj same).1]
        rfl
    rw [unbroken] at ends
    cases ends

/-! ### Double quotes -/

theorem writeDoubleChar_ne_quote (c : Char) (x y : List Char) :
    writeDoubleChar c ++ x ≠ '\x22' :: y := by
  intro same
  unfold writeDoubleChar at same
  split_ifs at same with escaped
  · cases (List.cons.inj same).1
  · have quote : c = '\x22' := (List.cons.inj same).1
    simp [quote] at escaped

/-- Two texts in double quotes that are written in the same way are the same. -/
theorem flatMap_writeDoubleChar_inj : ∀ a b : List Char,
    a.flatMap writeDoubleChar ++ '\x22' :: x = b.flatMap writeDoubleChar ++ '\x22' :: y → a = b
  | [], [], _ => rfl
  | [], d :: b, same => by
    rw [List.flatMap_cons, List.append_assoc] at same
    exact absurd same.symm (writeDoubleChar_ne_quote d _ _)
  | c :: a, [], same => by
    rw [List.flatMap_cons, List.append_assoc] at same
    exact absurd same (writeDoubleChar_ne_quote c _ _)
  | c :: a, d :: b, same => by
    rw [List.flatMap_cons, List.flatMap_cons, List.append_assoc, List.append_assoc] at same
    have read := congrArg readChar? same
    rw [readChar?_writeDoubleChar, readChar?_writeDoubleChar] at read
    obtain rfl := Option.some.inj read
    rw [flatMap_writeDoubleChar_inj a b (List.append_cancel_left same)]

/-! ### Literal blocks -/

theorem lineCode_singleton : LineCode fun c => [c] where
  separates := fun same => (List.cons.inj same).1
  unbroken := fun {c} unbroken => ⟨c, [], rfl, unbroken⟩

/-- A line further left is no line of the block. -/
theorem stops_of_outside (outside : Outside column x) :
    Stops column (fun c => [c]) true x := by
  intro c z same
  rcases ends : isBreak c with _ | _
  · rw [writeLineChar_of_unbroken true ends, if_pos rfl, List.append_assoc] at same
    exact outside.ne_indent_append (List.cons_ne_nil c z) same
  · rw [writeLineChar_of_break true ends] at same
    rcases outside with rfl | ⟨other, first, rest, rfl, -, -, unbroken⟩
    · cases same
    · rw [isBreak_head_indent unbroken same] at ends
      cases ends

/-- The text with a line end at its end. -/
def closeLine (text : List Char) : List Char :=
  if endsInBreak text then text else text ++ ['\n']

/-- The lines of a literal block are all ended. -/
theorem freshAfter_closeLine (text : List Char) : freshAfter true (closeLine text) = true := by
  unfold closeLine
  split_ifs with ends
  · rcases text with _ | ⟨c, rest⟩
    · rfl
    · rw [← freshAfter_false] at ends
      exact ends
  · exact freshAfter_append true text ['\n']

/-- What the head of a literal block says of its text. -/
def hints (text : List Char) : List Char :=
  leadingHint text ++ trailingHint text

theorem leadingHint_cases (text : List Char) :
    leadingHint text = ['2'] ∨ leadingHint text = [] := by
  unfold leadingHint
  split_ifs
  · exact .inl rfl
  · exact .inr rfl

/-- The head says whether the text ends its last line. -/
theorem trailingHint_cases (text : List Char) :
    (endsInBreak text = false ∧ trailingHint text = ['-']) ∨
      (endsInBreak text = true ∧ (trailingHint text = ['+'] ∨ trailingHint text = [])) := by
  rcases List.eq_nil_or_concat text with rfl | ⟨before, last, rfl⟩
  · exact .inl ⟨rfl, rfl⟩
  · rw [List.concat_eq_append, endsInBreak, List.getLast?_concat, Option.any_some, trailingHint,
      List.reverse_append]
    rcases ends : isBreak last with _ | _
    · simp [ends]
    · rcases all : before.reverse.head?.all isBreak with _ | _ <;> simp_all

/-- The dash in the head says that the text does not end its last line. -/
theorem dash_mem_hints (text : List Char) : '-' ∈ hints text ↔ endsInBreak text = false := by
  unfold hints
  rcases leadingHint_cases text with lead | lead <;>
    rcases trailingHint_cases text with ⟨ends, trail⟩ | ⟨ends, trail | trail⟩ <;>
    simp [lead, trail, ends]

theorem notMem_hints (text : List Char) : '\n' ∉ hints text := by
  unfold hints
  rcases leadingHint_cases text with lead | lead <;>
    rcases trailingHint_cases text with ⟨-, trail⟩ | ⟨-, trail | trail⟩ <;>
    simp [lead, trail]

/-- A literal block is its head and the lines of the text, the last one ended. -/
theorem writeLiteral_append (column : Nat) (text x : List Char) :
    writeLiteral column text ++ x =
      '|' :: (hints text ++ '\n' ::
        (writeLines column (fun c => [c]) true (closeLine text) ++ x)) := by
  have lines : writeLines column (fun c => [c]) true (closeLine text) =
      writeLines column (fun c => [c]) true text ++
        (if endsInBreak text then [] else ['\n']) := by
    unfold closeLine
    split_ifs
    · rw [List.append_nil]
    · exact writeLines_append true text ['\n']
  rw [lines]
  simp only [writeLiteral, hints, List.cons_append, List.append_assoc]

/-! ## Scalars -/

/-- Scalars that start two texts in the same way hold the same text, if no line at
their column comes behind. -/
theorem writeScalar_inj {a b : List Char} (outsideA : Outside column x)
    (outsideB : Outside column y)
    (same : writeScalar column a ++ x = writeScalar column b ++ y) : a = b := by
  have style : styleOf a = styleOf b := by
    rw [← styleAt_writeScalar column a x, same, styleAt_writeScalar]
  rcases plain : styleOf b with _ | _ | _ | _
  all_goals
    rw [plain] at style
    simp only [writeScalar, style, plain] at same
  · rw [List.append_assoc, List.append_assoc] at same
    have unbroken : ∀ {text : List Char}, styleOf text = .plain → '\n' ∉ text :=
      fun plain inside => absurd ((plain_of_styleOf plain).unbroken _ inside) (by decide)
    exact (append_cons_inj (unbroken style) (unbroken plain) same).1
  · rw [List.append_assoc, List.append_assoc] at same
    have same := (List.cons.inj ((writeSingle_append column a x).symm.trans
      (same.trans (writeSingle_append column b y)))).2
    exact lineCode_writeSingleChar.writeLines_inj a b false (stops_writeSingle _ _)
      (stops_writeSingle _ _) same
  · simp only [writeDouble, List.cons_append, List.append_assoc] at same
    exact flatMap_writeDoubleChar_inj a b (List.cons.inj same).2
  · rw [writeLiteral_append, writeLiteral_append] at same
    obtain ⟨head, lines⟩ :=
      append_cons_inj (notMem_hints a) (notMem_hints b) (List.cons.inj same).2
    have stops : ∀ {text z : List Char}, Outside column z →
        Stops column (fun c => [c]) (freshAfter true (closeLine text)) z := by
      intro text z outside
      rw [freshAfter_closeLine]
      exact stops_of_outside outside
    have closed : closeLine a = closeLine b :=
      lineCode_singleton.writeLines_inj _ _ true (stops outsideA) (stops outsideB) lines
    have ends : endsInBreak a = false ↔ endsInBreak b = false := by
      rw [← dash_mem_hints, ← dash_mem_hints, head]
    rw [closeLine, closeLine] at closed
    rcases endsB : endsInBreak b with _ | _
    · rw [ends.mpr endsB, endsB] at closed
      exact List.append_cancel_right closed
    · have endsA : endsInBreak a = true := by
        rw [← Bool.not_eq_false, ends, endsB]
        decide
      rw [endsA, endsB] at closed
      exact closed

end CallSig.Yaml
