import Mathlib.Data.String.Basic
import CallSig.Proofs.Octet.Encoding

/-!
# The order of octets

Texts are ordered by their characters, and so are the octets of texts by
themselves. The two orders agree: the octets of two characters differ at a place
that both have, and at the first such place the smaller character has the smaller
octet (`below_utf8EncodeChar`).
-/

namespace CallSig.Octet

/-- The lists differ at a place that both have, and at the first such place the
first list has the smaller octet. -/
def Below : List UInt8 → List UInt8 → Prop
  | b :: rest, d :: other => b < d ∨ b = d ∧ Below rest other
  | _, _ => False

variable {one other : List UInt8} {c d : Char}

/-- What is behind such lists does not matter for their order. -/
theorem Below.append_lt (below : Below one other) (rest more : List UInt8) :
    one ++ rest < other ++ more := by
  induction one generalizing other with
  | nil => exact below.elim
  | cons b one ih =>
    cases other with
    | nil => exact below.elim
    | cons d other =>
      rw [List.cons_append, List.cons_append, List.cons_lt_cons_iff]
      exact below.imp_right fun same => ⟨same.1, ih same.2⟩

/-- The smaller of two characters has the smaller octets. -/
theorem below_utf8EncodeChar (less : c < d) :
    Below (String.utf8EncodeChar c) (String.utf8EncodeChar d) := by
  have codes : c.toNat < d.toNat := less
  have bound : d.toNat < 1114112 := by
    have valid := d.valid
    simp only [UInt32.isValidChar, Nat.isValidChar, Char.toNat_val] at valid
    omega
  -- The digits of a code in base 64, one from the other.
  have digits : ∀ code : Nat, code / 4096 = code / 64 / 64 ∧ code / 262144 = code / 64 / 64 / 64 :=
    fun code => by omega
  simp only [String.utf8EncodeChar, Char.toNat_val, digits]
  -- A case for each pair of lengths: the longer one has the greater first octet, and octets of
  -- one length are the digits of the code in base 64.
  split_ifs <;>
    simp only [Below, UInt8.lt_iff_toNat_lt, ← UInt8.toNat_inj, UInt8.toNat_ofNat'] <;> omega

/-- The octets of texts are ordered as the texts are. -/
theorem octets_lt {text more : List Char} (less : text < more) : octets text < octets more := by
  induction text generalizing more with
  | nil =>
    cases more with
    | nil => exact absurd less (List.lt_irrefl _)
    | cons d more =>
      obtain ⟨b, rest, same⟩ := List.exists_cons_of_length_pos
        (String.length_utf8EncodeChar d ▸ d.utf8Size_pos)
      rw [octets_cons, same]
      exact List.nil_lt_cons b _
  | cons c text ih =>
    cases more with
    | nil => exact absurd less (List.not_lt_nil _)
    | cons d more =>
      rw [octets_cons, octets_cons]
      rcases List.cons_lt_cons_iff.mp less with before | ⟨rfl, rest⟩
      · exact (below_utf8EncodeChar before).append_lt _ _
      · exact List.append_left_lt (ih rest)

theorem octetsOf_lt {text more : String} (less : text < more) : octetsOf text < octetsOf more := by
  have chars := octets_lt (String.lt_iff_toList_lt.mp less)
  rwa [← octetsOf_ofList, ← octetsOf_ofList, String.ofList_toList, String.ofList_toList] at chars

end CallSig.Octet
