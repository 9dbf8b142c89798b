import Mathlib.Tactic.Ring
import CallSig.Proofs.Text.Hex
import CallSig.Yaml.Printer

/-!
# Escapes, read again

`readChar?` reads one character of a text in double quotes, escaped or not. It
has every character back from what is written for it, whatever comes behind
(`readChar?_writeDoubleChar`).
-/

namespace CallSig.Yaml

open CallSig.Text

/-- The character that an escape of one letter stands for. -/
def letterChar? : Char → Option Char
  | '0' => some '\x00'
  | 'a' => some '\x07'
  | 'b' => some '\x08'
  | 't' => some '\t'
  | 'n' => some '\n'
  | 'v' => some '\x0b'
  | 'f' => some '\x0c'
  | 'r' => some '\r'
  | 'e' => some '\x1b'
  | '\x22' => some '\x22'
  | '\\' => some '\\'
  | 'N' => some '\x85'
  | 'L' => some '\u2028'
  | 'P' => some '\u2029'
  | _ => none

/-- The character with the code point that the first digits write. -/
def codeChar? (width : Nat) (text : List Char) : Option Char :=
  (readDigits? 16 (text.take width)).map Char.ofNat

/-- The first character of a text in double quotes. -/
def readChar? : List Char → Option Char
  | [] => none
  | '\\' :: 'x' :: rest => codeChar? 2 rest
  | '\\' :: 'u' :: rest => codeChar? 4 rest
  | '\\' :: 'U' :: rest => codeChar? 8 rest
  | '\\' :: letter :: _ => letterChar? letter
  | c :: _ => some c

/-- The number with one more digit behind it. -/
def addDigit? (base number : Nat) (c : Char) : Option Nat :=
  match hexValue? c with
  | some value => if value < base then some (number * base + value) else none
  | none => none

theorem readDigits?_eq_foldlM {base : Nat} {text : List Char} (nonempty : text ≠ []) :
    readDigits? base text = text.foldlM (addDigit? base) 0 := by
  rw [readDigits?, List.isEmpty_eq_false_iff.mpr nonempty]
  rfl

/-- Padded digits are read as the number, as far as it has room in their width. -/
theorem foldlM_hexPadded (width : Nat) : ∀ number before : Nat,
    (hexPadded upperHexDigit width number).foldlM (addDigit? 16) before =
      some (before * 16 ^ width + number % 16 ^ width) := by
  induction width with
  | zero => simp [hexPadded, Nat.mod_one]
  | succ width ih =>
    intro number before
    have small : number % 16 < 16 := Nat.mod_lt _ (by decide)
    have digits : number % (16 * 16 ^ width) = number % 16 + 16 * (number / 16 % 16 ^ width) :=
      Nat.mod_mul
    have last : ∀ n,
        addDigit? 16 n (upperHexDigit (number % 16)) = some (n * 16 + number % 16) := by
      intro n
      simp [addDigit?, hexValue?_upperHexDigit small, small]
    have sum : (before * 16 ^ width + number / 16 % 16 ^ width) * 16 + number % 16 =
        before * (16 * 16 ^ width) + (number % 16 + 16 * (number / 16 % 16 ^ width)) := by
      ring
    rw [hexPadded, List.foldlM_append, ih, Nat.pow_succ', digits, ← sum]
    exact congrArg (· >>= pure) (last _)

/-- As many digits as are written for a code point give it back. -/
theorem codeChar?_hexPadded {width : Nat} (c : Char) (fits : c.toNat < 16 ^ (width + 1))
    (rest : List Char) :
    codeChar? (width + 1) (hexPadded upperHexDigit (width + 1) c.toNat ++ rest) = some c := by
  have length := length_hexPadded upperHexDigit (width + 1) c.toNat
  have nonempty : hexPadded upperHexDigit (width + 1) c.toNat ≠ [] := by
    simp [hexPadded]
  rw [codeChar?, List.take_append_of_le_length (Nat.le_of_eq length.symm),
    List.take_of_length_le (Nat.le_of_eq length), readDigits?_eq_foldlM nonempty, foldlM_hexPadded,
    Nat.mod_eq_of_lt fits, Nat.zero_mul, Nat.zero_add, Option.map_some, Char.ofNat_toNat]

/-- An escape is read as the character that it is written for. -/
theorem readChar?_escape (c : Char) (rest : List Char) :
    readChar? ('\\' :: (escape c ++ rest)) = some c := by
  unfold escape
  split
  case h_15 =>
    have valid : c.toNat < 0x110000 := by
      rcases c.valid with low | ⟨-, high⟩
      · exact Nat.lt_trans low (by decide)
      · exact high
    split_ifs with byte short
    · exact codeChar?_hexPadded c (Nat.lt_succ_of_le byte) rest
    · exact codeChar?_hexPadded c (Nat.lt_succ_of_le short) rest
    · exact codeChar?_hexPadded c (Nat.lt_trans valid (by decide)) rest
  all_goals rfl

/-- A character in double quotes is read back, whatever comes behind it. -/
theorem readChar?_writeDoubleChar (c : Char) (rest : List Char) :
    readChar? (writeDoubleChar c ++ rest) = some c := by
  rw [writeDoubleChar]
  split_ifs with escaped
  · exact readChar?_escape c rest
  · have plain : c ≠ '\\' := by
      rintro rfl
      simp at escaped
    rw [List.singleton_append, readChar?] 
    all_goals simp [plain]

end CallSig.Yaml
