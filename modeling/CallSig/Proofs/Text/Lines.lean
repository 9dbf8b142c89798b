import Mathlib.Data.String.Basic

/-!
# The parts of a text between marks

`String.splitOn` walks a text by places. When the mark is one character, the parts
are those that `List.splitOn` gives for the characters (`splitOn_singleton`).

Lines of which each is ended are the parts in front of the marks, as long as no line
has a line end in it (`endedLines_join`).
-/

namespace CallSig.Text

open String (utf8Len)

/-- The walk stands behind `line`, which comes behind the last mark. -/
theorem splitOnAux_singleton (mark : Char) (front line rest : List Char) (done : List String) :
    String.splitOnAux (.ofList (front ++ (line ++ rest))) (.ofList [mark])
        ⟨utf8Len front⟩ ⟨utf8Len (front ++ line)⟩ 0 done =
      done.reverse ++ (rest.splitOnPPrepend (· == mark) line.reverse).map String.ofList := by
  have piece := String.extract_of_valid front line rest
  rw [List.append_assoc, ← String.utf8Len_append] at piece
  -- `piece` goes into the induction, as `front` and `line` move at every step.
  induction rest generalizing front line done with
  | nil =>
    have ends := (String.atEnd_of_valid (front ++ line) []).mpr rfl
    rw [List.append_assoc] at ends
    rw [String.splitOnAux, if_pos ends, piece]
    simp
  | cons c rest ih =>
    have here := String.get_of_valid (front ++ line) (c :: rest)
    have next := String.next_of_valid (front ++ line) c rest
    have goesOn := mt (String.atEnd_of_valid (front ++ line) (c :: rest)).mp (by simp)
    have behind : utf8Len (front ++ line) + c.utf8Size = utf8Len (front ++ (line ++ [c])) := by
      simp [Nat.add_assoc]
    rw [List.append_assoc] at here next goesOn
    rw [behind] at next
    have sep : (0 : String.Pos.Raw).get (.ofList [mark]) = mark := String.get_of_valid [] [mark]
    have sepNext : (0 : String.Pos.Raw).next (.ofList [mark]) = ⟨utf8Len [mark]⟩ := by
      simpa using String.next_of_valid [] mark []
    have sepEnds := (String.atEnd_of_valid [mark] []).mpr rfl
    rw [List.append_nil] at sepEnds
    rw [String.splitOnAux, if_neg goesOn, here, sep, next, sepNext, if_pos sepEnds]
    by_cases same : c = mark
    · subst same
      have back : (String.Pos.Raw.mk (utf8Len (front ++ (line ++ [c])))).unoffsetBy
          ⟨utf8Len [c]⟩ = ⟨utf8Len (front ++ line)⟩ := by
        simp [String.Pos.Raw.unoffsetBy, ← Nat.add_assoc]
      have later := ih (front ++ (line ++ [c])) [] (.ofList line :: done)
        (by simpa using String.extract_of_valid (front ++ (line ++ [c])) [] rest)
      simp only [List.headD_cons, beq_self_eq_true, if_true, back, piece]
      simpa [List.splitOnPPrepend_cons_pos] using later
    · have back : (String.Pos.Raw.mk (utf8Len (front ++ line))).unoffsetBy 0 =
          ⟨utf8Len (front ++ line)⟩ := by
        simp [String.Pos.Raw.unoffsetBy]
      have later := ih front (line ++ [c]) done
        (by simpa using String.extract_of_valid front (line ++ [c]) rest)
      simp only [List.headD_cons, beq_eq_false_iff_ne.mpr same, Bool.false_eq_true, if_false, back,
        next]
      simpa [same, List.splitOnPPrepend_cons_neg] using later

/-- The parts of a text between marks are the parts of its characters. -/
theorem splitOn_singleton (text : String) (mark : Char) :
    text.splitOn (.ofList [mark]) = (text.toList.splitOn mark).map String.ofList := by
  have parts := splitOnAux_singleton mark [] [] text.toList []
  have notEmpty : (String.ofList [mark] == "") = false := by simp
  rw [String.splitOn, notEmpty]
  simpa [List.splitOn] using parts

/-! ## Parts and marks -/

section

variable {α : Type} [BEq α] [LawfulBEq α] {mark : α}

/-- No part between marks has a mark in it. -/
theorem not_mem_of_mem_splitOn {text part : List α} (inside : part ∈ text.splitOn mark) :
    mark ∉ part := by
  induction text generalizing part with
  | nil =>
    rw [List.splitOn_nil, List.mem_singleton] at inside
    subst inside
    exact List.not_mem_nil
  | cons c rest ih =>
    rw [List.splitOn_cons_eq_if_modifyHead] at inside
    split at inside
    · rcases List.mem_cons.mp inside with rfl | later
      · exact List.not_mem_nil
      · exact ih later
    · next other =>
      cases parts : rest.splitOn mark with
      | nil => exact absurd parts (List.splitOn_ne_nil mark rest)
      | cons first more =>
        rw [parts, List.modifyHead_cons] at inside
        rcases List.mem_cons.mp inside with rfl | later
        · have unmarked := ih (parts ▸ List.mem_cons_self)
          intro marked
          rcases List.mem_cons.mp marked with rfl | marked
          · exact other (by simp)
          · exact unmarked marked
        · exact ih (parts ▸ List.mem_cons_of_mem _ later)

/-- With a mark behind every part, the parts are those in front of the marks. -/
theorem splitOn_flatMap_append {parts : List (List α)} (unmarked : ∀ part ∈ parts, mark ∉ part) :
    (parts.flatMap (· ++ [mark])).splitOn mark = parts ++ [[]] := by
  induction parts with
  | nil => exact List.splitOn_nil mark
  | cons part rest ih =>
    rw [List.forall_mem_cons] at unmarked
    rw [List.flatMap_cons, List.append_assoc, List.singleton_append,
      List.splitOn_append_cons_self_of_not_mem unmarked.1, ih unmarked.2, List.cons_append]

end

/-! ## Lines -/

/-- The text has no line end. -/
def OneLine (text : String) : Prop :=
  '\n' ∉ text.toList

instance (text : String) : Decidable (OneLine text) :=
  inferInstanceAs (Decidable ('\n' ∉ text.toList))

/-- The lines of a text, without what stands behind the last line end. -/
def endedLines (text : String) : List String :=
  (text.splitOn "\n").dropLast

theorem OneLine.append {text other : String} (oneLine : OneLine text) (otherLine : OneLine other) :
    OneLine (text ++ other) := by
  rw [OneLine, String.toList_append, List.mem_append]
  exact not_or.mpr ⟨oneLine, otherLine⟩

/-- A text is of one line when it is cut from one. -/
theorem OneLine.of_isInfix {text other : String} (oneLine : OneLine text)
    (isInfix : other.toList <:+: text.toList) : OneLine other :=
  fun inside => oneLine (isInfix.mem inside)

theorem OneLine.intercalate {mark : String} {texts : List String} (markLine : OneLine mark)
    (oneLine : ∀ text ∈ texts, OneLine text) : OneLine (mark.intercalate texts) := by
  induction texts with
  | nil =>
    rw [String.intercalate_nil]
    exact List.not_mem_nil
  | cons text rest ih =>
    rw [List.forall_mem_cons] at oneLine
    cases rest with
    | nil =>
      rw [String.intercalate_singleton]
      exact oneLine.1
    | cons next rest =>
      rw [String.intercalate_cons_cons]
      exact (oneLine.1.append markLine).append (ih oneLine.2)

/-- A text of ended lines is empty or ends with a line end. -/
theorem join_lines_ends (lines : List String) :
    String.join (lines.map (· ++ "\n")) = "" ∨
      (String.join (lines.map (· ++ "\n"))).toList.getLast? = some '\n' := by
  rcases List.eq_nil_or_concat lines with rfl | ⟨front, last, rfl⟩
  · exact .inl rfl
  · refine .inr ?_
    rw [List.concat_eq_append, List.map_append, String.join_append, String.toList_append,
      List.map_singleton, String.join_cons, String.join_nil, String.append_empty,
      String.toList_append, ← List.append_assoc]
    exact List.getLast?_concat

/-- Lines that are written with a line end behind each are read back. -/
theorem endedLines_join {lines : List String} (oneLine : ∀ line ∈ lines, OneLine line) :
    endedLines (String.join (lines.map (· ++ "\n"))) = lines := by
  have parts : ∀ text : String,
      text.splitOn "\n" = (text.toList.splitOn '\n').map String.ofList :=
    fun text => splitOn_singleton text '\n'
  have chars : (String.join (lines.map (· ++ "\n"))).toList =
      (lines.map String.toList).flatMap (· ++ ['\n']) := by
    rw [String.toList_join, List.flatMap_map, List.flatMap_map]
    exact List.flatMap_congr fun line _ => String.toList_append
  have unmarked : ∀ part ∈ lines.map String.toList, '\n' ∉ part :=
    List.forall_mem_map.mpr oneLine
  rw [endedLines, parts, chars, splitOn_flatMap_append unmarked, List.map_append, List.map_map,
    List.map_singleton, List.dropLast_concat]
  simp [Function.comp_def]

end CallSig.Text
