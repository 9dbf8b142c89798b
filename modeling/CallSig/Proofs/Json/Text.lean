import CallSig.Json.Basic
import CallSig.Json.Node
import CallSig.Proofs.Text.Hex

/-!
# Strings, read again

The reader takes the escapes of a character in one step and has the character
back (`readStringFrom_escapeChar`), so it reads a written string up to its
closing quote and leaves what is behind it (`readString_writeString`).
-/

namespace CallSig.Json

open CallSig.Text

/-- Four digits write a code unit. -/
theorem readUnit_hexPadded {unit : Nat} (small : unit < 0x10000) (rest : List Char) :
    readUnit (hexPadded lowerHexDigit 4 unit ++ rest) = .ok (unit, rest) := by
  have digit : ∀ n, hexValue? (lowerHexDigit (n % 16)) = some (n % 16) := fun n =>
    hexValue?_lowerHexDigit (Nat.mod_lt n (by decide))
  have whole : ((unit / 16 / 16 / 16 % 16 * 16 + unit / 16 / 16 % 16) * 16 + unit / 16 % 16) * 16 +
      unit % 16 = unit := by omega
  simp [hexPadded, readUnit, digit, whole]

/-- A code unit that is no surrogate is a character. -/
theorem StringState.unit_of_lt (reversed : List Char) {unit : Nat} (low : unit < 0xD800) :
    StringState.unit ⟨some reversed, none⟩ unit = ⟨some (Char.ofNat unit :: reversed), none⟩ := by
  have notHigh : isHighSurrogate unit = false := by simp [isHighSurrogate, Nat.not_le.mpr low]
  have notLow : isLowSurrogate unit = false := by
    simp [isLowSurrogate, Nat.not_le.mpr (Nat.lt_trans low (by decide : 0xD800 < 0xDC00))]
  simp [StringState.unit, notHigh, notLow, Gathered.push]

/-- One step reads one character, however it is written. -/
theorem readStringFrom_escapeChar (fuel : Nat) (reversed : List Char) (c : Char)
    (rest : List Char) :
    readStringFrom (fuel + 1) ⟨some reversed, none⟩ (escapeChar c ++ rest) =
      readStringFrom fuel ⟨some (c :: reversed), none⟩ rest := by
  have short : ∀ {e : Char}, e ≠ 'u' → shortEscape? e = some c →
      readStringFrom (fuel + 1) ⟨some reversed, none⟩ ('\\' :: e :: rest) =
        readStringFrom fuel ⟨some (c :: reversed), none⟩ rest := by
    intro e notUnit escape
    simp [readStringFrom, notUnit, escape, StringState.settle, Gathered.push]
  unfold escapeChar
  split_ifs with quote backslash backspace formFeed lineFeed carriageReturn tab control
  · exact short (by decide) (by rw [quote]; rfl)
  · exact short (by decide) (by rw [backslash]; rfl)
  · exact short (by decide) (by rw [backspace]; rfl)
  · exact short (by decide) (by rw [formFeed]; rfl)
  · exact short (by decide) (by rw [lineFeed]; rfl)
  · exact short (by decide) (by rw [carriageReturn]; rfl)
  · exact short (by decide) (by rw [tab]; rfl)
  · have unit := readUnit_hexPadded (Nat.lt_trans control (by decide)) rest
    have state := StringState.unit_of_lt reversed (Nat.lt_trans control (by decide : 0x20 < 0xD800))
    simp [readStringFrom, unit, state, Char.ofNat_toNat]
  · simp [readStringFrom, quote, backslash, control, StringState.settle, Gathered.push]

/-- The characters of a string are read back one by one, up to the quote that ends it. -/
theorem readStringFrom_flatMap {fuel : Nat} (text : List Char) (enough : text.length < fuel)
    (reversed rest : List Char) :
    readStringFrom fuel ⟨some reversed, none⟩ (text.flatMap escapeChar ++ '\x22' :: rest) =
      (.string (String.ofList (reversed.reverse ++ text)), rest) := by
  induction text generalizing fuel reversed with
  | nil =>
    obtain ⟨fuel, rfl⟩ := Nat.exists_eq_succ_of_ne_zero (Nat.ne_of_gt enough)
    simp [readStringFrom, StringState.settle, Gathered.close]
  | cons c text ih =>
    obtain ⟨fuel, rfl⟩ := Nat.exists_eq_succ_of_ne_zero (Nat.ne_of_gt (Nat.zero_lt_of_lt enough))
    rw [List.flatMap_cons, List.append_assoc, readStringFrom_escapeChar,
      ih (Nat.lt_of_succ_lt_succ enough)]
    simp

/-- Escaping makes no text shorter, so that the fuel of a reader is enough. -/
theorem length_le_flatMap_escapeChar (text : List Char) :
    text.length ≤ (text.flatMap escapeChar).length := by
  have nonempty : ∀ c, 1 ≤ (escapeChar c).length := by
    intro c
    unfold escapeChar
    split_ifs <;> simp
  induction text with
  | nil => simp
  | cons c text ih =>
    have first := nonempty c
    rw [List.flatMap_cons, List.length_append, List.length_cons]
    omega

/-- A written string is read from behind its opening quote. -/
theorem readString_writeString (text : String) (rest : List Char) :
    readString (text.toList.flatMap escapeChar ++ '\x22' :: rest) = (.string text, rest) := by
  have le := length_le_flatMap_escapeChar text.toList
  have enough : text.toList.length <
      (text.toList.flatMap escapeChar ++ '\x22' :: rest).length + 1 := by
    rw [List.length_append]
    omega
  rw [readString, readStringFrom_flatMap text.toList enough]
  simp

end CallSig.Json
