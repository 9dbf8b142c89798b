import CallSig.Bracket.Matching

/-!
# What the match of a bracket depends on

The bracket that closes an open one is found without looking behind it
(`splitClose?_replaceRest`), and a text whose brackets of the pair are matched
among themselves is gone past at any depth (`Neutral`).
-/

namespace CallSig.Bracket

variable {opener closer : Char} {text first second : List Char}

/-! ## One character -/

/-- An opener of the pair has to be closed first. -/
theorem splitClose?_opener (depth : Nat) (rest : List Char) :
    splitClose? opener closer depth (opener :: rest) =
      (splitClose? opener closer (depth + 1) rest).map
        fun (inner, after) => (opener :: inner, after) := by
  simp [splitClose?]

theorem splitClose?_closer_zero (other : closer ≠ opener) (rest : List Char) :
    splitClose? opener closer 0 (closer :: rest) = some ([], rest) := by
  simp [splitClose?, other]

/-- With another bracket open a closer closes that one. -/
theorem splitClose?_closer_succ (other : closer ≠ opener) (depth : Nat) (rest : List Char) :
    splitClose? opener closer (depth + 1) (closer :: rest) =
      (splitClose? opener closer depth rest).map
        fun (inner, after) => (closer :: inner, after) := by
  simp [splitClose?, other]

theorem splitClose?_other {c : Char} (notOpener : c ≠ opener) (notCloser : c ≠ closer)
    (depth : Nat) (rest : List Char) :
    splitClose? opener closer depth (c :: rest) =
      (splitClose? opener closer depth rest).map fun (inner, after) => (c :: inner, after) := by
  simp [splitClose?, notOpener, notCloser]

/-- A close is found whatever comes after it. -/
theorem splitClose?_replaceRest {depth : Nat} {inner after : List Char}
    (split : splitClose? opener closer depth text = some (inner, after)) (other : List Char) :
    splitClose? opener closer depth (inner ++ closer :: other) = some (inner, other) := by
  fun_induction splitClose? opener closer depth text generalizing inner with
  | case1 => cases split
  | case2 depth rest ih =>
    obtain ⟨⟨innerRest, afterRest⟩, found, same⟩ := Option.map_eq_some_iff.mp split
    simp only [Prod.mk.injEq] at same
    rcases same with ⟨rfl, rfl⟩
    rw [List.cons_append, splitClose?_opener, ih found, Option.map_some]
  | case3 rest notOpener =>
    simp only [Option.some.injEq, Prod.mk.injEq] at split
    rcases split with ⟨rfl, rfl⟩
    exact splitClose?_closer_zero notOpener other
  | case4 rest depth notOpener ih =>
    obtain ⟨⟨innerRest, afterRest⟩, found, same⟩ := Option.map_eq_some_iff.mp split
    simp only [Prod.mk.injEq] at same
    rcases same with ⟨rfl, rfl⟩
    rw [List.cons_append, splitClose?_closer_succ notOpener, ih found, Option.map_some]
  | case5 depth c rest notOpener notCloser ih =>
    obtain ⟨⟨innerRest, afterRest⟩, found, same⟩ := Option.map_eq_some_iff.mp split
    simp only [Prod.mk.injEq] at same
    rcases same with ⟨rfl, rfl⟩
    rw [List.cons_append, splitClose?_other notOpener notCloser, ih found, Option.map_some]

/-- A text that starts with a bracket pair is the pair and what follows it. -/
theorem group?_eq_some {inner after : List Char}
    (found : group? opener closer text = some (inner, after)) :
    text = opener :: (inner ++ closer :: after) := by
  unfold group? at found
  split at found
  · cases found
  · split at found
    · next same => rw [same, splitClose?_eq_some found]
    · cases found

/-! ## Texts that the match goes past -/

/-- The match of a bracket goes past the text at any depth. -/
def Neutral (opener closer : Char) (text : List Char) : Prop :=
  ∀ depth rest, splitClose? opener closer depth (text ++ rest) =
    (splitClose? opener closer depth rest).map fun (inner, after) => (text ++ inner, after)

theorem Neutral.nil : Neutral opener closer [] := by
  intro depth rest
  simp

theorem Neutral.append (before : Neutral opener closer first)
    (behind : Neutral opener closer second) : Neutral opener closer (first ++ second) := by
  intro depth rest
  rw [List.append_assoc, before, behind, Option.map_map]
  simp [Function.comp_def]

theorem Neutral.singleton {c : Char} (notOpener : c ≠ opener) (notCloser : c ≠ closer) :
    Neutral opener closer [c] :=
  fun depth rest => splitClose?_other notOpener notCloser depth rest

theorem Neutral.of_forall (other : ∀ c ∈ text, c ≠ opener ∧ c ≠ closer) :
    Neutral opener closer text := by
  induction text with
  | nil => exact .nil
  | cons c text ih =>
    rw [List.forall_mem_cons] at other
    exact (Neutral.singleton other.1.1 other.1.2).append (ih other.2)

/-- The match goes past a bracket around a text that it goes past. -/
theorem Neutral.bracket (other : closer ≠ opener) (inside : Neutral opener closer text) :
    Neutral opener closer (opener :: (text ++ [closer])) := by
  intro depth rest
  rw [List.cons_append, splitClose?_opener, List.append_assoc, inside, List.singleton_append,
    splitClose?_closer_succ other]
  simp [Function.comp_def]

/-- The first close behind a text that is gone past is the one looked for. -/
theorem Neutral.splitClose? (neutral : Neutral opener closer text) (other : closer ≠ opener)
    (rest : List Char) :
    splitClose? opener closer 0 (text ++ closer :: rest) = some (text, rest) := by
  rw [neutral, splitClose?_closer_zero other]
  simp

end CallSig.Bracket
