import CallSig.Parse.Reading

/-!
# What every argument of a reading has in common

`readList` collects the arguments of its turns, and marks those of a group as
optional. So what holds of the argument of every turn, and is kept by the mark,
holds of every argument read (`forall_mem_readList`, `forall_mem_parseArguments`).
-/

namespace CallSig.Parse

open CallSig.Bracket

namespace Reading

@[simp] theorem args_empty : Reading.empty.args = [] := rfl

@[simp] theorem args_abandoned (why : Abandonment) : (Reading.abandoned why).args = [] := rfl

@[simp] theorem args_single (arg : Argument) : (Reading.single arg).args = [arg] := rfl

@[simp] theorem args_asOptional (reading : Reading) :
    reading.asOptional.args = reading.args.map (·.asOptional) := rfl

end Reading

/-- A reading goes on behind each turn as the turn says. -/
theorem readList_eq (depth : Nat) (previous : Option Argument) (body : List Char) :
    readList depth previous body =
      match nextTurn depth previous body with
      | .finished => .empty
      | .abandoned why => .abandoned why
      | .skip rest => readList depth previous rest
      | .group inner rest =>
        let group := (readList (depth + 1) none inner).asOptional
        group ++ readList depth (group.args.getLast?.or previous) rest
      | .argument arg .finished => .single arg
      | .argument arg (.abandoned why) => .abandoned why ++ .single arg
      | .argument arg (.more rest) => .single arg ++ readList depth (some arg) rest := by
  rw [readList]
  split <;> next turn => simp only [turn]

/-- Separators in front of a list change nothing. -/
theorem readList_congr {text other : List Char}
    (same : text.dropWhile isSeparator = other.dropWhile isSeparator) (depth : Nat)
    (previous : Option Argument) :
    readList depth previous text = readList depth previous other := by
  have sameTurn : nextTurn depth previous text = nextTurn depth previous other := by
    rw [nextTurn, nextTurn, same]
  rw [readList_eq, readList_eq depth previous other, sameTurn]

/-- A group that closes is one turn where there is room for it. -/
theorem nextTurn_of_splitClose? {rest inner after : List Char} {depth : Nat}
    (shallow : depth < maxGroupDepth) (closes : splitClose? '[' ']' 0 rest = some (inner, after))
    (previous : Option Argument) : nextTurn depth previous ('[' :: rest) = .group inner after := by
  have notSeparator : isSeparator '[' = false := rfl
  rw [nextTurn, List.dropWhile_cons_of_neg (by simp [notSeparator])]
  simp only [readGroup, Nat.not_le.mpr shallow, if_false, closes]

/-- A group that closes is read as a list of its own, in front of what comes behind it. -/
theorem readList_of_splitClose? {rest inner after : List Char} {depth : Nat}
    (shallow : depth < maxGroupDepth) (closes : splitClose? '[' ']' 0 rest = some (inner, after))
    (previous : Option Argument) :
    ∃ last, readList depth previous ('[' :: rest) =
      (readList (depth + 1) none inner).asOptional ++ readList depth last after := by
  rw [readList_eq, nextTurn_of_splitClose? shallow closes previous]
  exact ⟨_, rfl⟩

variable (Holds : Argument → Prop)

/-- What holds of the argument of each turn, and is kept when a group makes it optional,
holds of all arguments of a list. -/
theorem forall_mem_readList
    (turn : ∀ {depth previous body arg after},
      nextTurn depth previous body = .argument arg after → Holds arg)
    (optional : ∀ {arg : Argument}, Holds arg → Holds arg.asOptional)
    (depth : Nat) (previous : Option Argument) (body : List Char) :
    ∀ arg ∈ (readList depth previous body).args, Holds arg := by
  fun_induction readList depth previous body with
  | case1 depth previous body finished => exact fun arg inside => nomatch inside
  | case2 depth previous body why abandoned => exact fun arg inside => nomatch inside
  | case3 depth previous body rest skipped ih => exact ih
  | case4 depth previous body inner rest expanded group ihInner ihRest =>
    intro arg inside
    rw [Reading.args_append, List.mem_append, Reading.args_asOptional, List.mem_map] at inside
    rcases inside with ⟨arg, inGroup, rfl⟩ | inRest
    · exact optional (ihInner arg inGroup)
    · exact ihRest arg inRest
  | case5 depth previous body arg found =>
    intro other inside
    cases List.mem_singleton.mp inside
    exact turn found
  | case6 depth previous body arg why found =>
    intro other inside
    cases List.mem_singleton.mp inside
    exact turn found
  | case7 depth previous body arg rest found ih =>
    intro other inside
    rcases List.mem_cons.mp inside with rfl | later
    · exact turn found
    · exact ih other later

/-- What holds of the argument of each turn, and is kept when a group makes it optional,
holds of all arguments of a signature. -/
theorem forall_mem_parseArguments
    (turn : ∀ {depth previous body arg after},
      nextTurn depth previous body = .argument arg after → Holds arg)
    (optional : ∀ {arg : Argument}, Holds arg → Holds arg.asOptional)
    (text : String) : ∀ arg ∈ parseArguments text, Holds arg := by
  intro arg inside
  simp only [parseArguments, parseSignature, readSignature] at inside
  split at inside
  · exact forall_mem_readList Holds turn optional _ _ _ arg inside
  · split at inside <;> cases inside

end CallSig.Parse
