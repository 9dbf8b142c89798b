import Mathlib.Data.List.Forall2
import CallSig.Format.Formatter
import CallSig.Proofs.Call.Shape
import CallSig.Proofs.Command.Source
import CallSig.Proofs.Parse.Taken
import CallSig.Proofs.Text.Trim

/-!
# The text outline split into its signatures

Of every signature the outline has the line itself and indented lines under it.
`write_signatureLines` says that these can be told apart again: the lines that do
not start with a space are the signatures, and under each stand as many lines as
its arguments and flags call for.

It rests on two facts. A signature is a trimmed line, so it starts with no blank
(`visible_of_mem_signatureLines`). And no text of an argument has a line end,
because all of them are copied from the one line (`oneLine_of_mem_detailLines`).
-/

namespace CallSig

open CallSig.Text

variable {text : String} {arg : Argument} {args : List Argument}

/-! ## Arguments without line ends -/

/-- No text of the argument has a line end. -/
structure Argument.Unbroken (arg : Argument) : Prop where
  name : OneLine arg.name
  type : ∀ value, arg.typeExpr = some value → OneLine value
  default : ∀ value, arg.defaultExpr = some value → OneLine value

/-- The arguments of a signature in one line have no line ends: their texts are copied
from it. -/
theorem unbroken_of_mem_parseArguments (oneLine : OneLine text)
    (inside : arg ∈ parseArguments text) : arg.Unbroken := by
  obtain ⟨name, type, default⟩ := copiedFrom_of_mem_parseArguments inside
  refine ⟨?_, fun value same => oneLine.of_isInfix (type value same),
    fun value same => oneLine.of_isInfix (default value same)⟩
  rcases name with copied | same | same
  · exact oneLine.of_isInfix copied
  · rw [same]
    decide
  · rw [same]
    decide

namespace Argument.Unbroken

theorem oneLine_marked {mark : String} {part : Option String} (markLine : OneLine mark)
    (partLine : ∀ value, part = some value → OneLine value) :
    OneLine (Argument.marked mark part) := by
  cases part with
  | none => exact List.not_mem_nil
  | some value => exact markLine.append (partLine value rfl)

/-- An argument without line ends is shown in one line. -/
theorem oneLine_render (unbroken : arg.Unbroken) : OneLine arg.render := by
  have typeLine := oneLine_marked (by decide : OneLine ": ") unbroken.type
  have defaultLine := oneLine_marked (by decide : OneLine " = ") unbroken.default
  have bare : OneLine arg.renderBare := (unbroken.name.append typeLine).append defaultLine
  unfold render
  split
  · have opened := OneLine.append (by decide : OneLine "[") bare
    exact opened.append (by decide)
  · exact bare

end Argument.Unbroken

namespace CallShape

/-- The arguments given by position are among the arguments. -/
theorem mem_of_mem_positional (inside : arg ∈ (ofArgs args).positional) : arg ∈ args := by
  rw [ofArgs_eq] at inside
  exact (List.takeWhile_sublist _).mem (List.mem_of_mem_filter inside)

theorem oneLine_outline (unbroken : ∀ arg ∈ args, arg.Unbroken) :
    OneLine (ofArgs args).outline := by
  have names : ∀ name ∈ (ofArgs args).positional.map (·.name), OneLine name :=
    List.forall_mem_map.mpr fun arg inside => (unbroken arg (mem_of_mem_positional inside)).name
  have listed := OneLine.intercalate (by decide : OneLine ", ") names
  have opened := OneLine.append (by decide : OneLine "(") listed
  refine (opened.append (by decide)).append ?_
  split <;> decide

end CallShape

/-! ## The lines under a signature -/

/-- How many lines stand under a signature. -/
def detailCount (withShape : Bool) (text : String) : Nat :=
  max 1 (parseArguments text).length + (if (parseSignature text).variadic then 1 else 0) +
    (if withShape then 1 else 0)

namespace Report

/-- There is a line for each argument, or one that says that there is none. -/
theorem length_argumentLines (report : Report) :
    report.argumentLines.length = max 1 report.arguments.length := by
  unfold argumentLines
  split
  · next empty => simp [List.isEmpty_iff.mp empty]
  · next nonempty =>
    rw [List.length_map, Nat.max_eq_right]
    exact List.length_pos_iff.mpr fun empty => nonempty (List.isEmpty_iff.mpr empty)

/-- The details of a signature take as many lines as are counted for them. -/
theorem length_detailLines (text : String) (withShape : Bool) :
    (ofText text withShape).detailLines.length = detailCount withShape text := by
  have arguments := length_argumentLines (ofText text withShape)
  have variadic : (if (ofText text withShape).variadic then ["variadic"] else []).length =
      if (parseSignature text).variadic then 1 else 0 := apply_ite List.length _ _ _
  have shape : ((ofText text withShape).shape.map fun shape =>
      "shape: " ++ shape.outline).toList.length = if withShape then 1 else 0 := by
    cases withShape <;> rfl
  rw [detailLines, List.length_append, List.length_append, arguments, variadic, shape]
  rfl

theorem oneLine_of_mem_detailLines (oneLine : OneLine text) (withShape : Bool) :
    ∀ line ∈ (ofText text withShape).detailLines, OneLine line := by
  have unbroken : ∀ arg ∈ parseArguments text, arg.Unbroken :=
    fun arg inside => unbroken_of_mem_parseArguments oneLine inside
  intro line inside
  rw [detailLines, List.mem_append, List.mem_append, or_assoc] at inside
  rcases inside with inArguments | inVariadic | inShape
  · unfold argumentLines at inArguments
    split at inArguments
    · rw [List.mem_singleton.mp inArguments]
      decide
    · obtain ⟨arg, inside, rfl⟩ := List.mem_map.mp inArguments
      exact (unbroken arg inside).oneLine_render
  · split at inVariadic
    · rw [List.mem_singleton.mp inVariadic]
      decide
    · cases inVariadic
  · cases withShape with
    | false => cases inShape
    | true =>
      rw [List.mem_singleton.mp inShape]
      exact OneLine.append (by decide) (CallShape.oneLine_outline unbroken)

end Report

/-! ## The outline as lines -/

/-- The lines under a signature with their indentation. -/
def indentedLines (withShape : Bool) (text : String) : List String :=
  (Report.ofText text withShape).detailLines.map fun line => "  " ++ line

theorem isPrefix_of_mem_indentedLines {withShape : Bool} :
    ∀ line ∈ indentedLines withShape text, [' ', ' '] <+: line.toList := by
  intro line inside
  obtain ⟨detail, -, rfl⟩ := List.mem_map.mp inside
  rw [String.toList_append]
  exact List.prefix_append _ _

/-- The outline is the lines of all reports, each of them ended. -/
theorem outlineText_eq (reports : List Report) :
    outlineText reports = String.join ((reports.flatMap Report.outlineLines).map (· ++ "\n")) := by
  rw [outlineText, List.map_flatMap]

/-- The outline of texts of one line has these lines. -/
theorem endedLines_outlineText {signatures : List String}
    (oneLine : ∀ text ∈ signatures, OneLine text) (withShape : Bool) :
    endedLines (outlineText (signatures.map fun text => Report.ofText text withShape)) =
      signatures.flatMap fun text => text :: indentedLines withShape text := by
  rw [outlineText_eq, List.flatMap_map]
  refine endedLines_join fun line inside => ?_
  obtain ⟨text, listed, inside⟩ := List.mem_flatMap.mp inside
  rcases List.mem_cons.mp inside with rfl | under
  · exact oneLine line listed
  · obtain ⟨detail, inDetails, rfl⟩ := List.mem_map.mp under
    have detailLine := Report.oneLine_of_mem_detailLines (oneLine text listed) withShape
    exact OneLine.append (by decide) (detailLine detail inDetails)

/-- Without the indented lines the signatures are left. -/
theorem filter_outline {signatures : List String}
    (visible : ∀ text ∈ signatures, text.toList.head? ≠ some ' ') (withShape : Bool) :
    (signatures.flatMap fun text => text :: indentedLines withShape text).filter
      (fun line => line.toList.head? != some ' ') = signatures := by
  have under : ∀ text, (indentedLines withShape text).filter
      (fun line => line.toList.head? != some ' ') = [] := by
    intro text
    rw [List.filter_eq_nil_iff]
    intro line inside
    obtain ⟨rest, same⟩ := isPrefix_of_mem_indentedLines line inside
    simp [← same]
  induction signatures with
  | nil => rfl
  | cons text rest ih =>
    rw [List.forall_mem_cons] at visible
    have kept : (text.toList.head? != some ' ') = true := bne_iff_ne.mpr visible.1
    rw [List.flatMap_cons, List.filter_append, List.filter_cons, if_pos kept, under,
      ih visible.2]
    rfl

/-! ## The signatures of a source -/

/-- A signature is a line that does not start with a blank. -/
theorem visible_of_mem_signatureLines {source mark line : String}
    (inside : line ∈ Command.signatureLines source mark) :
    OneLine line ∧ line.toList.head? ≠ some ' ' := by
  rw [Command.signatureLines_eq] at inside
  obtain ⟨trimmed, kept, rfl⟩ := List.mem_map.mp inside
  obtain ⟨part, listed, rfl⟩ := List.mem_map.mp (List.mem_of_mem_filter kept)
  rw [OneLine, String.toList_ofList]
  constructor
  · obtain ⟨before, after, -, -, whole⟩ := exists_eq_append_trim part
    have isInfix : trim part <:+: part := ⟨before, after, whole.symm⟩
    exact fun ended => not_mem_of_mem_splitOn listed (isInfix.mem ended)
  · intro blank
    have visible := (trimmed_trim part).first ' ' blank
    revert visible
    decide

/-- The outline of the signatures of a source is empty or ends with a line end. Its
lines that do not start with a space are the signatures in their order, and under
each stand its indented lines: one for each argument or one that there is none, one
if it is variadic, and one if the shape is asked for. -/
theorem write_signatureLines (source mark : String) (withShape : Bool) :
    ∃ out, Formatter.text.write ((Command.signatureLines source mark).map fun text =>
        Report.ofText text withShape) = .ok out ∧
      (out = "" ∨ out.toList.getLast? = some '\n') ∧
      (endedLines out).filter (fun line => line.toList.head? != some ' ') =
        Command.signatureLines source mark ∧
      ∃ details : List (List String),
        endedLines out =
          (List.zipWith List.cons (Command.signatureLines source mark) details).flatten ∧
        List.Forall₂ (fun text under => under.length = detailCount withShape text ∧
            ∀ line ∈ under, [' ', ' '] <+: line.toList)
          (Command.signatureLines source mark) details := by
  have signatureLine : ∀ text ∈ Command.signatureLines source mark,
      OneLine text ∧ text.toList.head? ≠ some ' ' :=
    fun text inside => visible_of_mem_signatureLines inside
  generalize Command.signatureLines source mark = signatures at signatureLine
  have lines := endedLines_outlineText (fun text inside => (signatureLine text inside).1) withShape
  refine ⟨_, rfl, ?_, ?_, signatures.map (indentedLines withShape), ?_, ?_⟩
  · rw [outlineText_eq]
    exact join_lines_ends _
  · rw [lines]
    exact filter_outline (fun text inside => (signatureLine text inside).2) withShape
  · rw [lines, List.zipWith_map_right, List.zipWith_self, List.flatMap]
  · rw [List.forall₂_map_right_iff, List.forall₂_same]
    intro text _
    refine ⟨?_, isPrefix_of_mem_indentedLines⟩
    rw [indentedLines, List.length_map, Report.length_detailLines]

end CallSig
