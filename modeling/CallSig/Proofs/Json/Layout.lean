import CallSig.Json.Decode
import CallSig.Proofs.Json.Text

/-!
# Written values, read again

A value that is written in a style with nothing but blanks around its marks
(`Style.Blank`) is read into its own tree (`Json.node`), whatever comes behind it
(`readValue_write`). So a text that holds just the value is decoded as that tree
is (`decodeText_write`).
-/

namespace CallSig.Json

/-- The style has only blanks around the marks. -/
structure Style.Blank (style : Style) : Prop where
  gap : ∀ depth, ∀ c ∈ style.gap depth, isSpace c = true
  colon : ∃ blanks, style.colon = ':' :: blanks ∧ ∀ c ∈ blanks, isSpace c = true

/-- In the compact style nothing stands around the marks. -/
theorem Style.blank_compact : Style.compact.Blank where
  gap := fun _ _ inside => nomatch inside
  colon := ⟨[], rfl, fun _ inside => nomatch inside⟩

/-- Line ends and indentation are blanks. -/
theorem Style.blank_pretty : Style.pretty.Blank where
  gap := by
    intro depth c inside
    rcases List.mem_cons.mp inside with rfl | inside
    · rfl
    · rw [List.eq_of_mem_replicate inside]
      rfl
  colon := ⟨[' '], rfl, by simp [isSpace]⟩

mutual

/-- The tree that a value is read into. -/
def node : Json → Node
  | .bool value => .bool value
  | .string text => .string text
  | .array items => .array (nodes items) none
  | .object fields => .object (fieldNodes fields) none

def nodes : List Json → List Node
  | [] => []
  | item :: rest => item.node :: nodes rest

def fieldNodes : List (String × Json) → List (Node × Node)
  | [] => []
  | (key, value) :: rest => (.string key, value.node) :: fieldNodes rest

end

/-! ## Blanks -/

variable {blanks : List Char}

theorem skipSpace_append (blank : ∀ c ∈ blanks, isSpace c = true) (rest : List Char) :
    skipSpace (blanks ++ rest) = skipSpace rest :=
  List.dropWhile_append_of_pos blank

theorem skipSpace_cons {c : Char} (visible : isSpace c = false) (rest : List Char) :
    skipSpace (c :: rest) = c :: rest :=
  List.dropWhile_cons_of_neg (by simp [visible])

/-- A written value starts with a visible character that closes nothing. -/
theorem exists_write_eq_cons (style : Style) (depth : Nat) (value : Json) :
    ∃ c rest, write style depth value = c :: rest ∧ isSpace c = false ∧ c ≠ ']' := by
  rcases value with (_ | _) | text | (_ | ⟨item, rest⟩) | (_ | ⟨⟨key, value⟩, rest⟩)
  all_goals exact ⟨_, _, rfl, rfl, by decide⟩

/-- Blanks in front of a value are skipped, and nothing of the value. -/
theorem skipSpace_write (blank : ∀ c ∈ blanks, isSpace c = true) (style : Style) (depth : Nat)
    (value : Json) (rest : List Char) :
    skipSpace (blanks ++ (write style depth value ++ rest)) = write style depth value ++ rest := by
  obtain ⟨c, more, start, visible, -⟩ := exists_write_eq_cons style depth value
  rw [skipSpace_append blank, start]
  exact skipSpace_cons visible _

theorem readWord_append (value : Node) (word rest : List Char) :
    readWord value word (word ++ rest) = (value, rest) := by
  induction word with
  | nil => rfl
  | cons c word ih => simpa [readWord] using ih

/-! ## Values -/

variable {style : Style}

mutual

/-- A written value is read back, with any blanks in front of it and any text
behind it. -/
theorem readValue_write (blankStyle : style.Blank) :
    ∀ (value : Json) (depth fuel : Nat) {blanks : List Char} (rest : List Char),
      2 * (write style depth value).length + 2 ≤ fuel → (∀ c ∈ blanks, isSpace c = true) →
      readValue fuel (blanks ++ (write style depth value ++ rest)) = (value.node, rest)
  | _, _, 0, _, _, enough, _ => absurd enough (by omega)
  | .bool value, depth, fuel + 1, blanks, rest, _, blank => by
    rw [readValue, skipSpace_write blank]
    cases value
    · exact readWord_append (.bool false) ['a', 'l', 's', 'e'] rest
    · exact readWord_append (.bool true) ['r', 'u', 'e'] rest
  | .string text, depth, fuel + 1, blanks, rest, _, blank => by
    rw [readValue, skipSpace_write blank]
    simp [write, writeString, readString_writeString, node]
  | .array [], depth, fuel + 1, blanks, rest, _, blank => by
    rw [readValue, skipSpace_write blank]
    simp [write, skipSpace_cons (rfl : isSpace ']' = false), node, nodes]
  | .array (item :: items), depth, fuel + 1, blanks, rest, enough, blank => by
    simp only [write, List.length_append, List.length_cons] at enough
    have noBlanks : ∀ c ∈ ([] : List Char), isSpace c = true := nofun
    have read := readItems_write blankStyle item items (depth + 1) fuel rest
      (by rw [List.length_append]; omega) noBlanks (blankStyle.gap depth)
    rw [readValue, skipSpace_write blank, write]
    simp only [List.cons_append, List.append_assoc, List.nil_append,
      skipSpace_write (blankStyle.gap (depth + 1))] at read ⊢
    obtain ⟨c, more, start, -, notClose⟩ := exists_write_eq_cons style (depth + 1) item
    split
    · next same =>
      rw [start] at same
      cases same
    · next same =>
      rw [start] at same
      exact absurd (List.cons.inj same).1 notClose
    · rw [read, node, nodes]
  | .object [], depth, fuel + 1, blanks, rest, _, blank => by
    rw [readValue, skipSpace_write blank]
    simp [write, skipSpace_cons (rfl : isSpace '}' = false), node, fieldNodes]
  | .object ((key, value) :: fields), depth, fuel + 1, blanks, rest, enough, blank => by
    simp only [write, writeString, List.length_append, List.length_cons] at enough
    have read := readFields_write blankStyle key value fields (depth + 1) fuel rest
      (by simp only [List.length_append, List.length_cons]; omega) (blankStyle.gap depth)
    rw [readValue, skipSpace_write blank, write]
    simp only [writeString, List.cons_append, List.append_assoc, List.nil_append,
      skipSpace_append (blankStyle.gap (depth + 1)), skipSpace_cons (rfl : isSpace '\x22' = false),
      read, node, fieldNodes]

/-- The items of an array are read up to its close. -/
theorem readItems_write (blankStyle : style.Blank) :
    ∀ (item : Json) (items : List Json) (depth fuel : Nat) {blanks close : List Char}
      (after : List Char),
      2 * (write style depth item ++ writeItems style depth items).length + 3 ≤ fuel →
      (∀ c ∈ blanks, isSpace c = true) → (∀ c ∈ close, isSpace c = true) →
      readItems fuel (blanks ++ (write style depth item ++
        (writeItems style depth items ++ (close ++ ']' :: after)))) =
          (.array (item.node :: nodes items) none, after)
  | _, _, _, 0, _, _, _, enough, _, _ => absurd enough (by omega)
  | item, [], depth, fuel + 1, blanks, close, after, enough, blank, blankClose => by
    rw [List.length_append] at enough
    rw [readItems, readValue_write blankStyle item depth fuel _ (by omega) blank]
    simp [writeItems, skipSpace_append blankClose, skipSpace_cons (rfl : isSpace ']' = false),
      nodes]
  | item, next :: items, depth, fuel + 1, blanks, close, after, enough, blank, blankClose => by
    simp only [writeItems, List.length_append, List.length_cons] at enough
    have others := readItems_write blankStyle next items depth fuel after
      (by rw [List.length_append]; omega) (blankStyle.gap depth) blankClose
    rw [readItems, readValue_write blankStyle item depth fuel _ (by omega) blank]
    simp only [writeItems, List.cons_append, List.append_assoc,
      skipSpace_cons (rfl : isSpace ',' = false), others, nodes]

/-- The fields of an object are read from behind the quote of the first key up to
its close. -/
theorem readFields_write (blankStyle : style.Blank) :
    ∀ (key : String) (value : Json) (fields : List (String × Json)) (depth fuel : Nat)
      {close : List Char} (after : List Char),
      2 * (key.toList.flatMap escapeChar ++ '\x22' :: (style.colon ++ (write style depth value ++
        writeFields style depth fields))).length + 3 ≤ fuel →
      (∀ c ∈ close, isSpace c = true) →
      readFields fuel (key.toList.flatMap escapeChar ++ '\x22' :: (style.colon ++
        (write style depth value ++ (writeFields style depth fields ++ (close ++ '}' :: after))))) =
          (.object ((.string key, value.node) :: fieldNodes fields) none, after)
  | _, _, _, _, 0, _, _, enough, _ => absurd enough (by omega)
  | key, value, [], depth, fuel + 1, close, after, enough, blankClose => by
    obtain ⟨blanks, colon, blank⟩ := blankStyle.colon
    simp only [colon, List.length_append, List.length_cons] at enough
    rw [readFields, readString_writeString, colon]
    simp only [List.cons_append, skipSpace_cons (rfl : isSpace ':' = false)]
    rw [readValue_write blankStyle value depth fuel _ (by omega) blank]
    simp [writeFields, skipSpace_append blankClose, skipSpace_cons (rfl : isSpace '}' = false),
      fieldNodes]
  | key, value, (nextKey, next) :: fields, depth, fuel + 1, close, after, enough, blankClose => by
    obtain ⟨blanks, colon, blank⟩ := blankStyle.colon
    simp only [writeFields, writeString, colon, List.length_append, List.length_cons] at enough
    have others := readFields_write blankStyle nextKey next fields depth fuel after
      (by simp only [colon, List.length_append, List.length_cons]; omega) blankClose
    rw [readFields, readString_writeString, colon]
    simp only [List.cons_append, skipSpace_cons (rfl : isSpace ':' = false)]
    rw [readValue_write blankStyle value depth fuel _ (by omega) blank]
    simp only [writeFields, writeString, List.cons_append, List.append_assoc, List.nil_append,
      skipSpace_append (blankStyle.gap depth), skipSpace_cons (rfl : isSpace ',' = false),
      skipSpace_cons (rfl : isSpace '\x22' = false), others, fieldNodes]

end

/-! ## Whole texts -/

/-- A text that holds a written value is decoded as the tree of the value is. -/
theorem decodeText_write {α : Type} {decode : Node → Decoded α} {value : Json} {result : α}
    (blankStyle : style.Blank) (decoded : decode value.node = .ok result) :
    decodeText (String.ofList (write style 0 value)) decode = .ok result := by
  have noBlanks : ∀ c ∈ ([] : List Char), isSpace c = true := nofun
  have read := readValue_write blankStyle value 0 _ [] (Nat.le_refl _) noBlanks
  simp only [List.nil_append, List.append_nil] at read
  simp only [decodeText, Document.ofText, String.toList_ofList, String.length_ofList, read,
    Document.decode, decoded]
  rfl

end CallSig.Json
