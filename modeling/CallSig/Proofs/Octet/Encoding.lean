import CallSig.Bracket.Scan

/-!
# The octets of a text

An ASCII character is one octet, and every octet of another character is beyond
ASCII. So the brackets, quotes and stops of a text can be found among its octets.
-/

namespace CallSig.Octet

open CallSig.Bracket

/-- The octets of a text in UTF-8. -/
def octets (text : List Char) : List UInt8 :=
  text.flatMap String.utf8EncodeChar

/-- The octets of a string. -/
def octetsOf (text : String) : List UInt8 :=
  text.toByteArray.data.toList

theorem octetsOf_ofList (text : List Char) : octetsOf (.ofList text) = octets text := by
  simp [octetsOf, octets, List.utf8Encode]

@[simp] theorem octets_nil : octets [] = [] := rfl

@[simp] theorem octets_cons (c : Char) (rest : List Char) :
    octets (c :: rest) = String.utf8EncodeChar c ++ octets rest := rfl

/-- Whether the character is one octet. -/
def Ascii (c : Char) : Prop :=
  c.toNat < 128

instance (c : Char) : Decidable (Ascii c) := inferInstanceAs (Decidable (_ < _))

/-- Whether no ASCII character has the octet. -/
def High (b : UInt8) : Prop :=
  128 ≤ b.toNat

variable {c d : Char} {b : UInt8}

theorem utf8Size_of_ascii (ascii : Ascii c) : c.utf8Size = 1 :=
  Char.utf8Size_eq_one_iff.mpr (UInt32.le_iff_toNat_le.mpr (Nat.le_of_lt_succ ascii))

theorem utf8EncodeChar_of_ascii (ascii : Ascii c) : String.utf8EncodeChar c = [c.toUInt8] :=
  String.utf8EncodeChar_eq_singleton (utf8Size_of_ascii ascii)

/-- Every octet of another character is beyond ASCII. -/
theorem high_of_mem (notAscii : ¬Ascii c) (inside : b ∈ String.utf8EncodeChar c) : High b := by
  have bound : ¬c.toNat ≤ 127 := fun low => notAscii (Nat.lt_succ_of_le low)
  simp only [String.utf8EncodeChar, Char.toNat_val, if_neg bound] at inside
  split at inside
  · simp only [List.mem_cons, List.not_mem_nil, or_false] at inside
    rcases inside with rfl | rfl <;> simp only [High, UInt8.toNat_ofNat'] <;> omega
  split at inside
  · simp only [List.mem_cons, List.not_mem_nil, or_false] at inside
    rcases inside with rfl | rfl | rfl <;> simp only [High, UInt8.toNat_ofNat'] <;> omega
  · simp only [List.mem_cons, List.not_mem_nil, or_false] at inside
    rcases inside with rfl | rfl | rfl | rfl <;> simp only [High, UInt8.toNat_ofNat'] <;> omega

theorem toNat_toUInt8 (ascii : Ascii c) : c.toUInt8.toNat = c.toNat := by
  have small : c.toNat < 2 ^ 8 := Nat.lt_trans ascii (by decide)
  exact Nat.mod_eq_of_lt small

/-- Two characters of ASCII are the same octet only when they are the same. -/
theorem toUInt8_inj (asciiC : Ascii c) (asciiD : Ascii d) : c.toUInt8 = d.toUInt8 ↔ c = d := by
  rw [← UInt8.toNat_inj, toNat_toUInt8 asciiC, toNat_toUInt8 asciiD, Char.toNat_inj]

theorem beq_toUInt8 (asciiC : Ascii c) (asciiD : Ascii d) :
    (c.toUInt8 == d.toUInt8) = (c == d) := by
  simp only [Bool.beq_eq_decide_eq, toUInt8_inj asciiC asciiD]

/-- A character of ASCII is found again from its octet. -/
theorem ofUInt8_toUInt8 (ascii : Ascii c) : Char.ofUInt8 c.toUInt8 = c := by
  rw [← Char.toNat_inj]
  exact toNat_toUInt8 ascii

theorem High.ne (high : High b) (ascii : Ascii c) : b ≠ c.toUInt8 := by
  intro same
  subst same
  rw [High, toNat_toUInt8 ascii] at high
  exact absurd ascii (Nat.not_lt.mpr high)

end CallSig.Octet
