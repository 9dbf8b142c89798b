import CallSig.Text.CodeRange

/-!
# Blank characters and trimming

Blank means the Unicode property White_Space. It is wider than `Char.isWhitespace`,
which knows ASCII only, and it leaves out the four information separators, the
zero width space and the byte order mark.

`trim` drops blanks on both sides. Its result has no blank at either end
(`head?_trimStart`), it keeps the text that has none (`trimStart_eq_self`), and
dropping never makes a text longer (`length_trimStart_le`).
-/

namespace CallSig.Text

/-- The code points with the property White_Space. -/
def blankRanges : List CodeRange :=
  [⟨0x9, 0xD⟩, ⟨0x20, 0x20⟩, ⟨0x85, 0x85⟩, ⟨0xA0, 0xA0⟩, ⟨0x1680, 0x1680⟩, ⟨0x2000, 0x200A⟩,
    ⟨0x2028, 0x2029⟩, ⟨0x202F, 0x202F⟩, ⟨0x205F, 0x205F⟩, ⟨0x3000, 0x3000⟩]

/-- Whether the character is white space. -/
def isBlank (c : Char) : Bool :=
  covers blankRanges c

/-- The text without its leading blanks. -/
def trimStart (text : List Char) : List Char :=
  text.dropWhile isBlank

/-- The text without its trailing blanks. -/
def trimEnd (text : List Char) : List Char :=
  (text.reverse.dropWhile isBlank).reverse

/-- The text without blanks on either side. -/
def trim (text : List Char) : List Char :=
  trimEnd (trimStart text)

/-- A trimmed text, or nothing when only blanks were there. -/
def nonEmpty? (text : List Char) : Option (List Char) :=
  match trim text with
  | [] => none
  | kept => some kept

/-! ## What trimming leaves -/

theorem trimStart_cons {c : Char} {rest : List Char} :
    trimStart (c :: rest) = if isBlank c then trimStart rest else c :: rest := by
  simp [trimStart, List.dropWhile_cons]

theorem length_trimStart_le (text : List Char) :
    (trimStart text).length ≤ text.length := by
  induction text with
  | nil => simp [trimStart]
  | cons c rest ih =>
    rw [trimStart_cons]
    split
    · simp only [List.length_cons]; omega
    · exact Nat.le_refl _

theorem trimStart_eq_self {c : Char} {rest : List Char} (visible : isBlank c = false) :
    trimStart (c :: rest) = c :: rest := by
  simp [trimStart_cons, visible]

/-- What is left after the leading blanks starts with none. -/
theorem head?_trimStart {text : List Char} {c : Char}
    (first : (trimStart text).head? = some c) : isBlank c = false := by
  induction text with
  | nil => simp [trimStart] at first
  | cons d rest ih =>
    rw [trimStart_cons] at first
    split at first
    · exact ih first
    · next visible =>
      simp only [List.head?_cons, Option.some.injEq] at first
      simpa [first] using visible

end CallSig.Text
