import CallSig.Bracket.Matching

/-!
# Slices of a text

Places in a text are counts of UTF-8 octets, so a place may be past the end or
inside a character. `slice?` cuts a text between two places and gives nothing
when one of them is no boundary of characters, or when they are out of order.
`slice?_append` is the one way in which the readers of this library slice.

`Fault` lists what can go wrong with places, and `slice` and `sliceFrom` are
slices that fail with one.
-/

namespace CallSig.Octet

open CallSig.Bracket

/-- The text between two places. -/
def slice? (text : String) (start stop : Nat) : Option String :=
  if bounds : String.Pos.Raw.IsValid text ⟨start⟩ ∧ String.Pos.Raw.IsValid text ⟨stop⟩ ∧
      start ≤ stop then
    some (text.extract ⟨⟨start⟩, bounds.1⟩ ⟨⟨stop⟩, bounds.2.1⟩)
  else none

theorem utf8ByteSize_ofList (text : List Char) :
    (String.ofList text).utf8ByteSize = utf8Length text := by
  rw [← utf8Length_toList, String.toList_ofList]

theorem utf8Length_pos {piece : List Char} (nonempty : piece ≠ []) : 0 < utf8Length piece := by
  cases piece with
  | nil => exact absurd rfl nonempty
  | cons c rest =>
    have size := c.utf8Size_pos
    rw [utf8Length_cons]
    omega

/-- The place behind a part of a text is a boundary. -/
theorem isValid_append (before after : List Char) :
    String.Pos.Raw.IsValid (.ofList (before ++ after)) ⟨utf8Length before⟩ := by
  refine String.Pos.Raw.isValid_iff_exists_append.mpr ⟨.ofList before, .ofList after, ?_, ?_⟩
  · exact String.ofList_append
  · rw [String.Pos.Raw.ext_iff]
    exact (utf8ByteSize_ofList before).symm

/-- The slice of a part of a text is the part. -/
theorem slice?_append (before piece after : List Char) :
    slice? (.ofList (before ++ (piece ++ after))) (utf8Length before)
      (utf8Length before + utf8Length piece) = some (.ofList piece) := by
  have validStart := isValid_append before (piece ++ after)
  have validStop := isValid_append (before ++ piece) after
  rw [utf8Length_append, List.append_assoc] at validStop
  rw [slice?, dif_pos ⟨validStart, validStop, Nat.le_add_right _ _⟩, Option.some.injEq,
    ← String.toByteArray_inj, String.toByteArray_extract]
  have sizeBefore : (String.ofList before).toByteArray.size = utf8Length before :=
    utf8ByteSize_ofList before
  have sizePiece : (String.ofList piece).toByteArray.size = utf8Length piece :=
    utf8ByteSize_ofList piece
  simp only [String.ofList_append, String.toByteArray_append, ← sizeBefore, ← sizePiece]
  have nothing : ∀ (octets : ByteArray) (stop : Nat),
      octets.extract octets.size stop = ByteArray.empty :=
    fun octets stop => ByteArray.extract_eq_empty_iff.mpr (Nat.min_le_right _ _)
  rw [ByteArray.extract_append, nothing, ByteArray.empty_append, Nat.sub_self,
    Nat.add_sub_cancel_left, ByteArray.extract_append_eq_left rfl]

/-- At a boundary the text is cut between two characters. -/
theorem exists_eq_append_of_isValid {text : String} {place : Nat}
    (valid : String.Pos.Raw.IsValid text ⟨place⟩) :
    ∃ before after, text.toList = before ++ after ∧ utf8Length before = place := by
  obtain ⟨before, after, rfl, same⟩ := String.Pos.Raw.isValid_iff_exists_append.mp valid
  refine ⟨before.toList, after.toList, String.toList_append, ?_⟩
  rw [utf8Length_toList]
  exact (congrArg String.Pos.Raw.byteIdx same).symm

/-- Of two beginnings of a text, the one with fewer octets begins the other. -/
theorem isPrefix_of_utf8Length_le {first second text : List Char} (isFirst : first <+: text)
    (isSecond : second <+: text) (le : utf8Length first ≤ utf8Length second) :
    first <+: second := by
  rcases List.prefix_or_prefix_of_prefix isFirst isSecond with shorter | ⟨extra, rfl⟩
  · exact shorter
  · have nothing : extra = [] := by
      refine Classical.byContradiction fun nonempty => ?_
      have pos := utf8Length_pos nonempty
      rw [utf8Length_append] at le
      omega
    exact ⟨[], by rw [nothing, List.append_nil, List.append_nil]⟩

/-- A slice is a part of the text between the two places. -/
theorem slice?_eq_some_iff {text piece : String} {start stop : Nat} :
    slice? text start stop = some piece ↔
      ∃ before after, text.toList = before ++ (piece.toList ++ after) ∧
        utf8Length before = start ∧ start + utf8Length piece.toList = stop := by
  constructor
  · intro found
    have bounds : String.Pos.Raw.IsValid text ⟨start⟩ ∧ String.Pos.Raw.IsValid text ⟨stop⟩ ∧
        start ≤ stop := by
      rw [slice?] at found
      split at found
      · assumption
      · cases found
    obtain ⟨before, rest, whole, rfl⟩ := exists_eq_append_of_isValid bounds.1
    obtain ⟨front, after, same, rfl⟩ := exists_eq_append_of_isValid bounds.2.1
    have nested : before <+: front :=
      isPrefix_of_utf8Length_le ⟨rest, whole.symm⟩ ⟨after, same.symm⟩ bounds.2.2
    obtain ⟨middle, rfl⟩ := nested
    rw [List.append_assoc] at same
    have slice := slice?_append before middle after
    rw [← same, String.ofList_toList, ← utf8Length_append, found, Option.some.injEq] at slice
    subst slice
    rw [String.toList_ofList]
    exact ⟨before, after, same, rfl, (utf8Length_append before middle).symm⟩
  · rintro ⟨before, after, whole, rfl, rfl⟩
    have slice := slice?_append before piece.toList after
    rwa [← whole, String.ofList_toList, String.ofList_toList] at slice

/-- A slice from the start of a text is a beginning of it. -/
theorem slice?_zero_eq_some_iff {text piece : String} {stop : Nat} :
    slice? text 0 stop = some piece ↔
      ∃ after, text.toList = piece.toList ++ after ∧ utf8Length piece.toList = stop := by
  rw [slice?_eq_some_iff]
  constructor
  · rintro ⟨before, after, whole, start, size⟩
    have nothing : before = [] := by
      refine Classical.byContradiction fun nonempty => ?_
      have pos := utf8Length_pos nonempty
      omega
    subst nothing
    exact ⟨after, whole, by omega⟩
  · rintro ⟨after, whole, rfl⟩
    exact ⟨[], after, whole, rfl, Nat.zero_add _⟩

/-- A slice of a text is a stretch of it. -/
theorem isInfix_of_slice? {text piece : String} {start stop : Nat}
    (found : slice? text start stop = some piece) : piece.toList <:+: text.toList := by
  obtain ⟨before, after, whole, -, -⟩ := slice?_eq_some_iff.mp found
  exact ⟨before, after, by rw [whole, List.append_assoc]⟩

example : slice? "é=1" 2 3 = some "=" ∧ slice? "é=1" 1 3 = none := by decide +kernel

/-! ## Slices that fail -/

/-- What can go wrong when a text is read by places. -/
inductive Fault where
  /-- A place is past the end of the text or inside a character, or the places
  are out of order. -/
  | badSlice (start stop : Nat)
  /-- A closing bracket is counted where none is open. -/
  | depthBelowZero
  /-- A loop goes on without having come nearer to its end. -/
  | noProgress
  deriving Repr, DecidableEq

def slice (text : String) (start stop : Nat) : Except Fault String :=
  match slice? text start stop with
  | some piece => .ok piece
  | none => .error (.badSlice start stop)

def sliceFrom (text : String) (start : Nat) : Except Fault String :=
  slice text start text.utf8ByteSize

/-- The slice at the place of a piece is the piece. -/
theorem slice_append (before piece after : List Char) :
    slice (.ofList (before ++ (piece ++ after))) (utf8Length before)
      (utf8Length before + utf8Length piece) = .ok (.ofList piece) := by
  rw [slice, slice?_append]

theorem slice_prefix (piece after : List Char) :
    slice (.ofList (piece ++ after)) 0 (utf8Length piece) = .ok (.ofList piece) := by
  simpa using slice_append [] piece after

theorem sliceFrom_append (before after : List Char) :
    sliceFrom (.ofList (before ++ after)) (utf8Length before) = .ok (.ofList after) := by
  have whole := slice_append before after []
  rwa [List.append_nil, ← utf8Length_append, ← utf8ByteSize_ofList (before ++ after)] at whole

end CallSig.Octet
