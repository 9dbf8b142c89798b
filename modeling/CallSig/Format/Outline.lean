import CallSig.Report

/-!
# The text outline

The outline of a report is the signature text on a line of its own, followed by
indented lines: one for each argument, or one that says that there are none,
then one if the call is variadic and one with the shape if it is reported.
-/

namespace CallSig

namespace CallShape

/-- The shape as names in parentheses, with a mark when more are taken. -/
def outline (shape : CallShape) : String :=
  "(" ++ ", ".intercalate (shape.positional.map (·.name)) ++ ")" ++
    (if shape.variadic then " + *args" else "")

end CallShape

namespace Report

/-- The lines on the arguments. -/
def argumentLines (report : Report) : List String :=
  if report.arguments.isEmpty then ["(no arguments)"] else report.arguments.map Argument.render

/-- The lines under the signature text, without their indentation. -/
def detailLines (report : Report) : List String :=
  report.argumentLines ++ (if report.variadic then ["variadic"] else []) ++
    (report.shape.map fun shape => "shape: " ++ shape.outline).toList

/-- All lines of the outline. -/
def outlineLines (report : Report) : List String :=
  report.signature :: report.detailLines.map fun line => "  " ++ line

end Report

/-- The outlines of the reports, one after another. -/
def outlineText (reports : List Report) : String :=
  String.join (reports.flatMap fun report => report.outlineLines.map fun line => line ++ "\n")

end CallSig
