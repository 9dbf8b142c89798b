import CallSig.Proofs.Octet.Slice

/-!
# Ranges of a text

A `Span` is a range of places. `InOrder` says that ranges stand one behind the
other between two places, none of them empty; two such lists may be put one
behind the other (`InOrder.append`).
-/

namespace CallSig.Octet

open CallSig.Bracket

/-- A range of places in a text. -/
structure Span where
  start : Nat
  stop : Nat
  deriving Repr, DecidableEq

/-- The text in the range, if the range is one of the text. -/
def Span.text? (span : Span) (text : String) : Option String :=
  slice? text span.start span.stop

def Span.Within (inner outer : Span) : Prop :=
  outer.start ≤ inner.start ∧ inner.stop ≤ outer.stop

instance (inner outer : Span) : Decidable (inner.Within outer) :=
  inferInstanceAs (Decidable (_ ∧ _))

/-- The range of a part of a text. -/
def Span.of (before piece : List Char) : Span :=
  ⟨utf8Length before, utf8Length before + utf8Length piece⟩

/-- The range of a piece holds the piece, whatever stands around it. -/
theorem Span.text?_of (before piece after : List Char) :
    (Span.of before piece).text? (.ofList (before ++ (piece ++ after))) = some (.ofList piece) :=
  slice?_append before piece after

/-- The ranges stand one behind the other between two places, and none of them
is empty. -/
def InOrder (first : Nat) : List Span → Nat → Prop
  | [], last => first ≤ last
  | span :: rest, last => first ≤ span.start ∧ span.start < span.stop ∧ InOrder span.stop rest last

variable {first middle last : Nat} {span : Span} {spans others : List Span}

theorem InOrder.le (inOrder : InOrder first spans last) : first ≤ last := by
  induction spans generalizing first with
  | nil => exact inOrder
  | cons span rest ih =>
    have rest := ih inOrder.2.2
    have start := inOrder.1
    have nonempty := inOrder.2.1
    omega

theorem InOrder.mono_left {lower : Nat} (inOrder : InOrder first spans last)
    (le : lower ≤ first) : InOrder lower spans last := by
  cases spans with
  | nil => exact Nat.le_trans le inOrder
  | cons span rest => exact ⟨Nat.le_trans le inOrder.1, inOrder.2⟩

theorem InOrder.mono_right {upper : Nat} (inOrder : InOrder first spans last)
    (le : last ≤ upper) : InOrder first spans upper := by
  induction spans generalizing first with
  | nil => exact Nat.le_trans inOrder le
  | cons span rest ih => exact ⟨inOrder.1, inOrder.2.1, ih inOrder.2.2⟩

/-- Ranges up to a place and ranges from there on are in order together. -/
theorem InOrder.append (before : InOrder first spans middle) (behind : InOrder middle others last) :
    InOrder first (spans ++ others) last := by
  induction spans generalizing first with
  | nil => exact behind.mono_left before
  | cons span rest ih => exact ⟨before.1, before.2.1, ih before.2.2⟩

/-- Ranges in order are not empty and stand between their bounds. -/
theorem InOrder.bounds (inOrder : InOrder first spans last) :
    ∀ span ∈ spans, first ≤ span.start ∧ span.start < span.stop ∧ span.stop ≤ last := by
  induction spans generalizing first with
  | nil => exact fun span inside => nomatch inside
  | cons span rest ih =>
    have after := inOrder.2.2.le
    refine List.forall_mem_cons.mpr ⟨⟨inOrder.1, inOrder.2.1, after⟩, fun other inside => ?_⟩
    have bounds := ih inOrder.2.2 other inside
    have start := inOrder.1
    have nonempty := inOrder.2.1
    omega

theorem InOrder.pairwise (inOrder : InOrder first spans last) :
    spans.Pairwise fun one other => one.stop ≤ other.start := by
  induction spans generalizing first with
  | nil => exact .nil
  | cons span rest ih =>
    exact .cons (fun other inside => (inOrder.2.2.bounds other inside).1) (ih inOrder.2.2)

/-- A part that is not empty stands in the text that it is a part of. -/
theorem InOrder.of_part (before front back : List Char) {piece : List Char}
    (nonempty : piece ≠ []) :
    InOrder (utf8Length before) [.of (before ++ front) piece]
      (utf8Length before + utf8Length (front ++ (piece ++ back))) := by
  have length := utf8Length_pos nonempty
  simp only [InOrder, Span.of, utf8Length_append]
  omega

end CallSig.Octet
