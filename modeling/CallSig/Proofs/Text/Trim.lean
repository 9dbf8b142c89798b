import Mathlib.Data.List.DropRight
import CallSig.Text.Blank

/-!
# The parts that trimming takes off

A text is its trimmed form with blanks around it (`exists_eq_append_trim`), and
a trimmed form has none to take off (`trim_eq_self_iff`). A property that a text
keeps when one blank is taken off either end is one of the trimmed text
(`trim_of_drop`).
-/

namespace CallSig.Text

/-- Whether every character is a blank. -/
def Blank (text : List Char) : Prop :=
  ∀ c ∈ text, isBlank c = true

theorem ne_of_isBlank {c d : Char} (blank : isBlank c = true) (visible : isBlank d = false) :
    c ≠ d := by
  intro same
  subst same
  rw [blank] at visible
  cases visible

theorem trimEnd_eq_rdropWhile (text : List Char) : trimEnd text = text.rdropWhile isBlank := rfl

/-- What is taken off the start of a text is blanks. -/
theorem exists_eq_append_trimStart (text : List Char) :
    ∃ before, Blank before ∧ text = before ++ trimStart text :=
  ⟨text.takeWhile isBlank, fun _ inside => List.mem_takeWhile_imp inside,
    List.takeWhile_append_dropWhile.symm⟩

/-- What is taken off the end of a text is blanks. -/
theorem exists_eq_trimEnd_append (text : List Char) :
    ∃ after, Blank after ∧ text = trimEnd text ++ after :=
  ⟨text.rtakeWhile isBlank, fun _ inside => List.mem_rtakeWhile_imp inside,
    List.rdropWhile_append_rtakeWhile.symm⟩

/-- A text is its trimmed form with blanks around it. -/
theorem exists_eq_append_trim (text : List Char) :
    ∃ before after, Blank before ∧ Blank after ∧ text = before ++ trim text ++ after := by
  obtain ⟨before, blankBefore, start⟩ := exists_eq_append_trimStart text
  obtain ⟨after, blankAfter, stop⟩ := exists_eq_trimEnd_append (trimStart text)
  refine ⟨before, after, blankBefore, blankAfter, ?_⟩
  rw [List.append_assoc, trim, ← stop, ← start]

theorem trimStart_append_of_blank {before : List Char} (blank : Blank before) (rest : List Char) :
    trimStart (before ++ rest) = trimStart rest :=
  List.dropWhile_append_of_pos blank

/-- A property that is kept when a blank is taken off either end is kept by
trimming. -/
theorem trim_of_drop (Holds : List Char → Prop)
    (dropFirst : ∀ c rest, isBlank c = true → Holds (c :: rest) → Holds rest)
    (dropLast : ∀ rest c, isBlank c = true → Holds (rest ++ [c]) → Holds rest)
    {text : List Char} (holds : Holds text) : Holds (trim text) := by
  obtain ⟨before, after, blankBefore, blankAfter, same⟩ := exists_eq_append_trim text
  rw [same] at holds
  have holdsStart : Holds (trim text ++ after) := by
    clear same
    induction before with
    | nil => exact holds
    | cons c before ih =>
      have rest := dropFirst c _ (blankBefore c List.mem_cons_self) holds
      exact ih rest fun d inside => blankBefore d (List.mem_cons_of_mem _ inside)
  clear holds same
  induction after using List.reverseRecOn with
  | nil => simpa using holdsStart
  | append_singleton after c ih =>
    rw [← List.append_assoc] at holdsStart
    have rest := dropLast _ c (blankAfter c (by simp)) holdsStart
    exact ih (fun d inside => blankAfter d (by simp [inside])) rest

/-- A text without a blank at either end. -/
structure Trimmed (text : List Char) : Prop where
  first : ∀ c, text.head? = some c → isBlank c = false
  last : ∀ c, text.getLast? = some c → isBlank c = false

/-- A text is its own trimmed text when no blank stands at its ends. -/
theorem trim_eq_self_iff {text : List Char} : trim text = text ↔ Trimmed text := by
  constructor
  · intro trimmed
    constructor
    · intro c first
      by_contra blank
      obtain ⟨rest, rfl⟩ := List.head?_eq_some_iff.mp first
      have shorter := congrArg List.length trimmed
      have dropped : trimStart (c :: rest) = trimStart rest := by
        rw [trimStart_cons, if_pos (by simpa using blank)]
      rw [trim, dropped] at shorter
      obtain ⟨after, -, stop⟩ := exists_eq_trimEnd_append (trimStart rest)
      have ends := congrArg List.length stop
      rw [List.length_append] at ends
      have starts := length_trimStart_le rest
      simp only [List.length_cons] at shorter
      omega
    · intro c last
      rw [trim, trimEnd_eq_rdropWhile] at trimmed
      by_contra blank
      have visible := List.rdropWhile_last_not isBlank (trimStart text)
      rw [trimmed] at visible
      obtain ⟨rest, rfl⟩ := List.getLast?_eq_some_iff.mp last
      exact visible (by simp) (by simpa using blank)
  · intro ends
    rcases ends with ⟨first, last⟩
    have start : trimStart text = text := by
      cases text with
      | nil => rfl
      | cons c rest => exact trimStart_eq_self (first c rfl)
    rw [trim, start, trimEnd_eq_rdropWhile, List.rdropWhile_eq_self_iff]
    intro nonempty
    simp [last _ (List.getLast?_eq_some_getLast nonempty)]

theorem trimmed_trim (text : List Char) : Trimmed (trim text) := by
  constructor
  · intro c first
    obtain ⟨rest, same⟩ := List.head?_eq_some_iff.mp first
    obtain ⟨after, -, stop⟩ := exists_eq_trimEnd_append (trimStart text)
    have firstStart : (trimStart text).head? = some c := by
      rw [stop, ← trim, same]
      rfl
    exact head?_trimStart firstStart
  · intro c last
    obtain ⟨rest, same⟩ := List.getLast?_eq_some_iff.mp last
    have visible := List.rdropWhile_last_not isBlank (trimStart text)
    rw [← trimEnd_eq_rdropWhile, ← trim, same] at visible
    simpa using visible (by simp)

theorem trim_trim (text : List Char) : trim (trim text) = trim text :=
  trim_eq_self_iff.mpr (trimmed_trim text)

theorem trimStart_of_trimmed {text : List Char} (trimmed : Trimmed text) :
    trimStart text = text := by
  cases text with
  | nil => rfl
  | cons c rest => exact trimStart_eq_self (trimmed.first c rfl)

theorem trimEnd_append_of_blank {after : List Char} (blank : Blank after) (text : List Char) :
    trimEnd (text ++ after) = trimEnd text := by
  rw [trimEnd, trimEnd, List.reverse_append,
    List.dropWhile_append_of_pos fun c inside => blank c (List.mem_reverse.mp inside)]

/-- Blanks behind a trimmed text are trimmed off. -/
theorem trim_append_of_blank {text after : List Char} (trimmed : Trimmed text)
    (blank : Blank after) : trim (text ++ after) = text := by
  have alone : trim text = text := trim_eq_self_iff.mpr trimmed
  cases text with
  | nil =>
    rw [List.nil_append, ← List.append_nil after, trim, trimStart_append_of_blank blank]
    rfl
  | cons c text =>
    have visible := trimmed.first c rfl
    rw [trim, trimStart_eq_self visible] at alone
    rw [trim, List.cons_append, trimStart_eq_self visible, ← List.cons_append,
      trimEnd_append_of_blank blank, alone]

theorem trimStart_trimStart (text : List Char) : trimStart (trimStart text) = trimStart text := by
  cases start : trimStart text with
  | nil => rfl
  | cons c rest => exact trimStart_eq_self (head?_trimStart (by rw [start]; rfl))

/-- Trimming does not touch a visible first character. -/
theorem exists_trim_eq_cons {c : Char} (visible : isBlank c = false) (rest : List Char) :
    ∃ kept, trim (c :: rest) = c :: kept := by
  obtain ⟨after, blank, stop⟩ := exists_eq_trimEnd_append (c :: rest)
  rw [trim, trimStart_eq_self visible]
  cases trimmed : trimEnd (c :: rest) with
  | nil =>
    rw [trimmed, List.nil_append] at stop
    have blankFirst := blank c (stop ▸ List.mem_cons_self)
    rw [visible] at blankFirst
    cases blankFirst
  | cons d kept =>
    rw [trimmed, List.cons_append, List.cons.injEq] at stop
    exact ⟨kept, by rw [stop.1]⟩

end CallSig.Text
