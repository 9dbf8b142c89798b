import CallSig.Proofs.Yaml.Scalar

/-!
# Blocks, told apart

The start of a written value says its shape (`shapeAt_writeBlock`): a list has
dashes, an object has words with a colon behind, everything else is a scalar. So
two values that are written in the same way are the same, whatever stands behind
them outside their columns (`writeBlock_inj`).
-/

namespace CallSig

namespace Json

/-- A key of letters. -/
def IsWord (key : String) : Prop :=
  key.toList ≠ [] ∧ key.toList.all (·.isAlpha) = true

instance (key : String) : Decidable (IsWord key) :=
  inferInstanceAs (Decidable (_ ∧ _))

/-- The keys of all objects in the value are words. -/
inductive Worded : Json → Prop
  | bool (value : Bool) : Worded (.bool value)
  | string (text : String) : Worded (.string text)
  | array {items : List Json} : (∀ item ∈ items, Worded item) → Worded (.array items)
  | object {fields : List (String × Json)} : (∀ field ∈ fields, IsWord field.1) →
      (∀ field ∈ fields, Worded field.2) → Worded (.object fields)

namespace Worded

variable {first : Json} {others : List Json} {entry : String × Json}
  {entries : List (String × Json)}

theorem item (worded : Worded (.array (first :: others))) : Worded first := by
  rcases worded with _ | _ | each
  exact each first List.mem_cons_self

theorem items (worded : Worded (.array (first :: others))) : Worded (.array others) := by
  rcases worded with _ | _ | each
  exact .array fun other inside => each other (List.mem_cons_of_mem first inside)

theorem word (worded : Worded (.object (entry :: entries))) : IsWord entry.1 := by
  rcases worded with _ | _ | _ | ⟨words, -⟩
  exact words entry List.mem_cons_self

theorem value (worded : Worded (.object (entry :: entries))) : Worded entry.2 := by
  rcases worded with _ | _ | _ | ⟨-, each⟩
  exact each entry List.mem_cons_self

theorem fields (worded : Worded (.object (entry :: entries))) : Worded (.object entries) := by
  rcases worded with _ | _ | _ | ⟨words, each⟩
  exact .object (fun other inside => words other (List.mem_cons_of_mem entry inside))
    fun other inside => each other (List.mem_cons_of_mem entry inside)

end Worded

/-- What can be seen of a value from its first line. -/
inductive Shape where
  | bool (value : Bool)
  | text
  | emptyList
  | list
  | emptyObject
  | object
  deriving DecidableEq

def shape : Json → Shape
  | .bool value => .bool value
  | .string _ => .text
  | .array [] => .emptyList
  | .array (_ :: _) => .list
  | .object [] => .emptyObject
  | .object (_ :: _) => .object

end Json

namespace Yaml

open Json (IsWord Worded Shape)

variable {column : Nat} {c : Char} {x y : List Char} {key : String}

/-! ## Words -/

theorem isAlpha_ne {mark : Char} (letter : c.isAlpha = true) (noLetter : mark.isAlpha = false) :
    c ≠ mark := by
  rintro rfl
  rw [letter] at noLetter
  cases noLetter

theorem isBreak_of_isAlpha (letter : c.isAlpha = true) : isBreak c = false := by
  simp [isBreak, isAlpha_ne letter]

theorem noMark_of_isAlpha (letter : c.isAlpha = true) : indicators.contains c = false := by
  have noLetters : indicators.all (!·.isAlpha) = true := by decide
  rw [← Bool.not_eq_true, List.contains_iff_mem]
  intro inside
  have noLetter := List.all_eq_true.mp noLetters c inside
  rw [letter] at noLetter
  cases noLetter

theorem isAlpha_of_mem (word : IsWord key) (inside : c ∈ key.toList) : c.isAlpha = true :=
  List.all_eq_true.mp word.2 c inside

theorem notMem_word {mark : Char} (word : IsWord key) (noLetter : mark.isAlpha = false) :
    mark ∉ key.toList :=
  fun inside => isAlpha_ne (isAlpha_of_mem word inside) noLetter rfl

theorem exists_word_eq_cons (word : IsWord key) :
    ∃ c rest, key.toList = c :: rest ∧ c.isAlpha = true := by
  obtain ⟨c, rest, same⟩ := List.exists_cons_of_ne_nil word.1
  exact ⟨c, rest, same, isAlpha_of_mem word (same ▸ List.mem_cons_self)⟩

/-! ## Shapes -/

/-- The shape that a first line without any mark in front says. -/
def lineShape (line : List Char) : Shape :=
  if line = ['t', 'r', 'u', 'e'] then .bool true
  else if line = ['f', 'a', 'l', 's', 'e'] then .bool false
  else if hasKeyColon line then .object
  else .text

/-- The shape that the start of a value says. -/
def shapeAt : List Char → Shape
  | '-' :: ' ' :: _ => .list
  | '[' :: _ => .emptyList
  | '{' :: _ => .emptyObject
  | '\x27' :: _ => .text
  | '\x22' :: _ => .text
  | '|' :: _ => .text
  | text => lineShape (text.takeWhile fun c => !isBreak c)

/-- Without a mark at its start a value is of the shape that its first line says. -/
theorem shapeAt_of_noMark {rest : List Char} (noMark : indicators.contains c = false)
    (noDash : ∀ more, c :: rest ≠ '-' :: ' ' :: more) :
    shapeAt (c :: rest) = lineShape ((c :: rest).takeWhile fun c => !isBreak c) := by
  rw [shapeAt]
  · exact noDash
  all_goals
    rintro _ ⟨⟩
    exact absurd noMark (by decide)

/-- The line of a plain text is that of a scalar: it is no truth value and has no key. -/
theorem lineShape_of_plain {text : List Char} (plain : Plain text) : lineShape text = .text := by
  have noTrue : text ≠ ['t', 'r', 'u', 'e'] := by
    rintro rfl
    exact absurd plain.unambiguous (by decide)
  have noFalse : text ≠ ['f', 'a', 'l', 's', 'e'] := by
    rintro rfl
    exact absurd plain.unambiguous (by decide)
  rw [lineShape, if_neg noTrue, if_neg noFalse, plain.noKey]
  rfl

/-- A dash that a plain text starts with has no blank behind it. -/
theorem Plain.ne_dash {text : List Char} (plain : Plain text) (x more : List Char) :
    text ++ '\n' :: x ≠ '-' :: ' ' :: more := by
  intro same
  have noMarkup := plain.noMarkup
  rcases text with _ | ⟨c, _ | ⟨d, rest⟩⟩
  · cases (List.cons.inj same).1
  · cases (List.cons.inj (List.cons.inj same).2).1
  · obtain ⟨rfl, tail⟩ := List.cons.inj same
    obtain ⟨rfl, -⟩ := List.cons.inj tail
    cases noMarkup

theorem shapeAt_writeScalar (column : Nat) (text x : List Char) :
    shapeAt (writeScalar column text ++ x) = .text := by
  rw [writeScalar]
  rcases style : styleOf text with _ | _ | _ | _
  · have plain := plain_of_styleOf style
    have line : (text ++ '\n' :: x).takeWhile (fun c => !isBreak c) = text := by
      rw [List.takeWhile_append_of_pos (by simpa using plain.unbroken)]
      exact List.append_nil text
    have noDash := plain.ne_dash x
    have shape := lineShape_of_plain plain
    obtain ⟨c, rest, rfl, noMark⟩ := plain.exists_eq_cons
    rw [← line] at shape
    rw [← shape, List.append_assoc]
    exact shapeAt_of_noMark noMark noDash
  all_goals rfl

theorem exists_writeUnder_eq_cons (column : Nat) (value : Json) :
    ∃ c rest, writeUnder column value = c :: rest ∧ (c = ' ' ∨ c = '\n') := by
  rcases value with _ | _ | (_ | _) | (_ | _)
  all_goals exact ⟨_, _, rfl, by decide⟩

/-- A colon behind a word, with a blank or the line end behind it, is a key's. -/
theorem hasKeyColon_append (front : List Char) {behind : List Char}
    (blank : blankNext behind = true) : hasKeyColon (front ++ ':' :: behind) = true := by
  induction front with
  | nil => simp [hasKeyColon, blank]
  | cons c front ih => simp [hasKeyColon, ih]

theorem lineShape_key (key : String) {behind : List Char} (blank : blankNext behind = true) :
    lineShape (key.toList ++ ':' :: behind) = .object := by
  have differs : ∀ {word : List Char}, ':' ∉ word → key.toList ++ ':' :: behind ≠ word := by
    rintro word absent rfl
    exact absent (by simp)
  rw [lineShape, if_neg (differs (by decide)), if_neg (differs (by decide)),
    hasKeyColon_append key.toList blank]
  rfl

/-- An object starts as one, with its first key. -/
theorem shapeAt_key (word : IsWord key) (column : Nat) (value : Json) (x : List Char) :
    shapeAt (key.toList ++ ':' :: (writeUnder column value ++ x)) = .object := by
  obtain ⟨next, more, under, nextBlank⟩ := exists_writeUnder_eq_cons column value
  obtain ⟨behind, line, blank⟩ : ∃ behind,
      (key.toList ++ ':' :: (writeUnder column value ++ x)).takeWhile (fun c => !isBreak c) =
        key.toList ++ ':' :: behind ∧ blankNext behind = true := by
    rw [List.takeWhile_append_of_pos
      (fun c inside => by simpa using isBreak_of_isAlpha (isAlpha_of_mem word inside)), under]
    rcases nextBlank with rfl | rfl
    · exact ⟨_, rfl, rfl⟩
    · exact ⟨[], rfl, rfl⟩
  obtain ⟨c, rest, start, letter⟩ := exists_word_eq_cons word
  rw [← lineShape_key key blank, ← line, start]
  exact shapeAt_of_noMark (noMark_of_isAlpha letter)
    fun more same => isAlpha_ne letter rfl (List.cons.inj same).1

/-- The start of a written value says its shape. -/
theorem shapeAt_writeBlock {value : Json} (worded : Worded value) (column : Nat) (x : List Char) :
    shapeAt (writeBlock column value ++ x) = value.shape := by
  rcases value with (_ | _) | text | (_ | _) | (_ | ⟨⟨key, value⟩, rest⟩)
  case string =>
    rw [writeBlock]
    exact shapeAt_writeScalar column text.toList x
  case object.cons =>
    rw [writeBlock, List.append_assoc, List.append_assoc, List.cons_append]
    exact shapeAt_key worded.word column value _
  all_goals
    rw [writeBlock]
    rfl

/-! ## What may come behind a value -/

theorem Outside.mono {wider : Nat} (outside : Outside column x) (le : column ≤ wider) :
    Outside wider x := by
  rcases outside with rfl | ⟨other, c, rest, rfl, less, visible⟩
  · exact .inl rfl
  · exact .inr ⟨other, c, rest, rfl, Nat.lt_of_lt_of_le less le, visible⟩

/-- No line behind stands right of the column, and none at the column is the item of
a list. -/
def NoItem (column : Nat) (x : List Char) : Prop :=
  Outside (column + 1) x ∧ ∀ rest, x ≠ indent column ++ '-' :: rest

/-- A line further left than a column is no item of a list at the column. -/
theorem Outside.noItem (outside : Outside column x) : NoItem column x := by
  refine ⟨outside.mono (Nat.le_succ column), ?_⟩
  exact fun rest => outside.ne_indent_append (List.cons_ne_nil '-' rest)

/-- What may come behind a value of this shape. -/
def Behind (column : Nat) : Shape → List Char → Prop
  | .list, x => NoItem column x
  | _, x => Outside column x

theorem Outside.behind (outside : Outside column x) (shape : Shape) : Behind column shape x := by
  cases shape
  case list => exact outside.noItem
  all_goals exact outside

/-- The dashes of a list stand further left than its items. -/
theorem outside_writeItems (noItem : NoItem column x) (items : List Json) :
    Outside (column + 2) (writeItems column items ++ x) := by
  rcases items with _ | ⟨item, rest⟩
  · exact noItem.1.mono (Nat.le_succ _)
  · rw [writeItems, List.append_assoc, List.append_assoc]
    exact .inr ⟨column, '-', _, rfl, by omega, by decide, by decide⟩

/-- The fields behind a value are no items of a list. -/
theorem noItem_writeFields (outside : Outside column x) {fields : List (String × Json)}
    (worded : Worded (.object fields)) : NoItem column (writeFields column fields ++ x) := by
  rcases fields with _ | ⟨⟨key, value⟩, rest⟩
  · exact outside.noItem
  · obtain ⟨c, more, start, letter⟩ := exists_word_eq_cons worded.word
    simp only [writeFields, start, List.append_assoc, List.cons_append]
    refine ⟨.inr ⟨column, c, _, rfl, Nat.lt_succ_self column, isAlpha_ne letter rfl,
      isBreak_of_isAlpha letter⟩, ?_⟩
    intro rest same
    exact isAlpha_ne letter rfl (List.cons.inj (List.append_cancel_left same)).1

/-! ## Values of keys -/

/-- What stands between a key and a value of this shape. -/
def gap (column : Nat) : Shape → List Char
  | .list => '\n' :: indent column
  | .object => '\n' :: indent (column + 2)
  | _ => [' ']

/-- The column of a value of this shape under a key. -/
def home (column : Nat) : Shape → Nat
  | .list => column
  | _ => column + 2

/-- A value under a key is a gap and the value at its column. -/
theorem writeUnder_eq (column : Nat) (value : Json) :
    writeUnder column value =
      gap column value.shape ++ writeBlock (home column value.shape) value := by
  rcases value with _ | _ | (_ | _) | (_ | ⟨⟨_, _⟩, _⟩)
  all_goals
    rw [writeUnder, writeBlock]
    simp [gap, home, Json.shape]

/-- What is no item at the column of a key may come behind the value of the key. -/
theorem NoItem.behind_home (noItem : NoItem column x) (shape : Shape) :
    Behind (home column shape) shape x := by
  cases shape
  case list => exact noItem
  all_goals exact noItem.1.mono (Nat.le_succ _)

/-- The shape that the text behind a key and its colon says. -/
def shapeUnderAt (column : Nat) : List Char → Shape
  | '\n' :: text => if (text.drop column).head? = some '-' then .list else .object
  | _ :: text => shapeAt text
  | [] => .text

/-- The start of a value under a key says its shape. -/
theorem shapeUnderAt_writeUnder (column : Nat) (value : Json) (x : List Char) :
    shapeUnderAt column (writeUnder column value ++ x) = value.shape := by
  rcases value with (_ | _) | text | (_ | ⟨item, items⟩) | (_ | ⟨⟨key, value⟩, fields⟩)
  case string => exact shapeAt_writeScalar (column + 2) text.toList x
  case array.cons =>
    simp [writeUnder, shapeUnderAt, indent, Json.shape]
  case object.cons =>
    rw [writeUnder, indent_add]
    simp [shapeUnderAt, indent, Json.shape]
  all_goals rfl

/-! ## Values -/

/-- Values that are written in the same way are of the same shape. -/
theorem shape_eq_of_writeBlock {a b : Json} (wordedA : Worded a) (wordedB : Worded b)
    (same : writeBlock column a ++ x = writeBlock column b ++ y) : a.shape = b.shape := by
  rw [← shapeAt_writeBlock wordedA column x, same, shapeAt_writeBlock wordedB]

theorem writeItems_cons (column : Nat) (item : Json) (items : List Json) :
    writeItems column (item :: items) =
      indent column ++ writeBlock column (.array (item :: items)) := by
  simp only [writeItems, writeBlock, List.append_assoc]

theorem writeFields_cons (column : Nat) (field : String × Json) (fields : List (String × Json)) :
    writeFields column (field :: fields) =
      indent column ++ writeBlock column (.object (field :: fields)) := by
  simp only [writeFields, writeBlock, List.append_assoc]

mutual

/-- Values that are written in the same way are the same, if none of the lines behind
belongs to them. -/
theorem writeBlock_inj : ∀ (a b : Json) {column : Nat} {x y : List Char}, Worded a → Worded b →
    Behind column a.shape x → Behind column b.shape y →
    writeBlock column a ++ x = writeBlock column b ++ y → a = b
  | .bool value, b, column, x, y, wordedA, wordedB, _, _, same => by
    have shapes := shape_eq_of_writeBlock wordedA wordedB same
    rcases b with _ | _ | (_ | _) | (_ | _)
    all_goals cases shapes
    rfl
  | .string first, b, column, x, y, wordedA, wordedB, outsideA, outsideB, same => by
    have shapes := shape_eq_of_writeBlock wordedA wordedB same
    rcases b with _ | second | (_ | _) | (_ | _)
    case string =>
      rw [writeBlock, writeBlock] at same
      rw [String.toList_inj.mp (writeScalar_inj outsideA outsideB same)]
    all_goals cases shapes
  | .array [], b, column, x, y, wordedA, wordedB, _, _, same => by
    have shapes := shape_eq_of_writeBlock wordedA wordedB same
    rcases b with _ | _ | (_ | _) | (_ | _)
    case array.nil => rfl
    all_goals cases shapes
  | .array (a :: as), b, column, x, y, wordedA, wordedB, noItemA, noItemB, same => by
    have shapes := shape_eq_of_writeBlock wordedA wordedB same
    rcases b with _ | _ | (_ | ⟨b, bs⟩) | (_ | _)
    case array.cons =>
      have items : writeItems column (a :: as) ++ x = writeItems column (b :: bs) ++ y := by
        rw [writeItems_cons, writeItems_cons, List.append_assoc, List.append_assoc, same]
      rw [writeItems_inj (a :: as) (b :: bs) wordedA wordedB noItemA noItemB items]
    all_goals cases shapes
  | .object [], b, column, x, y, wordedA, wordedB, _, _, same => by
    have shapes := shape_eq_of_writeBlock wordedA wordedB same
    rcases b with _ | _ | (_ | _) | (_ | _)
    case object.nil => rfl
    all_goals cases shapes
  | .object (a :: as), b, column, x, y, wordedA, wordedB, outsideA, outsideB, same => by
    have shapes := shape_eq_of_writeBlock wordedA wordedB same
    rcases b with _ | _ | (_ | _) | (_ | ⟨b, bs⟩)
    case object.cons =>
      have fields : writeFields column (a :: as) ++ x = writeFields column (b :: bs) ++ y := by
        rw [writeFields_cons, writeFields_cons, List.append_assoc, List.append_assoc, same]
      rw [writeFields_inj (a :: as) (b :: bs) wordedA wordedB outsideA outsideB fields]
    all_goals cases shapes

/-- Lists are told apart item by item. -/
theorem writeItems_inj : ∀ (as bs : List Json) {column : Nat} {x y : List Char},
    Worded (.array as) → Worded (.array bs) → NoItem column x → NoItem column y →
    writeItems column as ++ x = writeItems column bs ++ y → as = bs
  | [], [], _, _, _, _, _, _, _, _ => rfl
  | [], b :: bs, _, _, _, _, _, noItem, _, same => by
    simp only [writeItems, List.nil_append, List.append_assoc, List.cons_append] at same
    exact absurd same (noItem.2 _)
  | a :: as, [], _, _, _, _, _, _, noItem, same => by
    simp only [writeItems, List.nil_append, List.append_assoc, List.cons_append] at same
    exact absurd same.symm (noItem.2 _)
  | a :: as, b :: bs, column, x, y, wordedA, wordedB, noItemA, noItemB, same => by
    simp only [writeItems, List.append_assoc, List.cons_append] at same
    have item := (List.cons.inj (List.cons.inj (List.append_cancel_left same)).2).2
    obtain rfl := writeBlock_inj a b wordedA.item wordedB.item
      ((outside_writeItems noItemA as).behind _) ((outside_writeItems noItemB bs).behind _) item
    rw [writeItems_inj as bs wordedA.items wordedB.items noItemA noItemB
      (List.append_cancel_left item)]

/-- Objects are told apart field by field. -/
theorem writeFields_inj : ∀ (as bs : List (String × Json)) {column : Nat} {x y : List Char},
    Worded (.object as) → Worded (.object bs) → Outside column x → Outside column y →
    writeFields column as ++ x = writeFields column bs ++ y → as = bs
  | [], [], _, _, _, _, _, _, _, _ => rfl
  | [], (key, b) :: bs, _, _, _, _, _, outside, _, same => by
    simp only [writeFields, List.nil_append, List.append_assoc, List.cons_append] at same
    exact absurd same (outside.ne_indent_append (by simp))
  | (key, a) :: as, [], _, _, _, _, _, _, outside, same => by
    simp only [writeFields, List.nil_append, List.append_assoc, List.cons_append] at same
    exact absurd same.symm (outside.ne_indent_append (by simp))
  | (keyA, a) :: as, (keyB, b) :: bs, column, x, y, wordedA, wordedB, outsideA, outsideB, same => by
    simp only [writeFields, List.append_assoc, List.cons_append] at same
    obtain ⟨keys, value⟩ := append_cons_inj (notMem_word wordedA.word rfl)
      (notMem_word wordedB.word rfl) (List.append_cancel_left same)
    obtain rfl := String.toList_inj.mp keys
    have shapes : a.shape = b.shape := by
      rw [← shapeUnderAt_writeUnder column a, value, shapeUnderAt_writeUnder]
    rw [writeUnder_eq, writeUnder_eq, ← shapes, List.append_assoc, List.append_assoc] at value
    have value := List.append_cancel_left value
    have behindA := (noItem_writeFields outsideA wordedA.fields).behind_home a.shape
    have behindB := (noItem_writeFields outsideB wordedB.fields).behind_home b.shape
    obtain rfl := writeBlock_inj a b wordedA.value wordedB.value behindA (shapes ▸ behindB) value
    rw [writeFields_inj as bs wordedA.fields wordedB.fields outsideA outsideB
      (List.append_cancel_left value)]

end

/-- Values whose keys are words have texts of their own. -/
theorem render_inj {a b : Json} (wordedA : Worded a) (wordedB : Worded b)
    (same : render a = render b) : a = b := by
  have outside : Outside 0 [] := .inl rfl
  have text : writeBlock 0 a ++ [] = writeBlock 0 b ++ [] := by
    rw [List.append_nil, List.append_nil]
    exact String.ofList_injective same
  exact writeBlock_inj a b wordedA wordedB (outside.behind _) (outside.behind _) text

end Yaml

end CallSig
