import CallSig.Format.Formatter

/-!
# The registry of formatters

A `Registry` holds formatters of different names; registering one replaces the
one of the same name. Names are kept as they are given, while a name that is
looked up is put in lower case first (ASCII letters only). So a formatter whose
name has an upper-case letter is listed but never found.
-/

namespace CallSig

/-- Formatters of different names. -/
structure Registry where
  formatters : List Formatter
  /-- No two formatters have the same name. -/
  names_nodup : (formatters.map (·.name)).Nodup

namespace Registry

/-- The text with its ASCII letters in lower case. -/
def foldName (name : String) : String :=
  name.map Char.toLower

/-- The registry without formatters. -/
def empty : Registry :=
  ⟨[], List.nodup_nil⟩

/-- Adds a formatter, in place of the one of the same name. -/
def register (registry : Registry) (formatter : Formatter) : Registry where
  formatters := formatter :: registry.formatters.filter (·.name != formatter.name)
  names_nodup := by
    rw [List.map_cons, List.nodup_cons]
    refine ⟨?_, registry.names_nodup.sublist (List.filter_sublist.map _)⟩
    simp only [List.mem_map, List.mem_filter, bne_iff_ne, ne_eq, not_exists, not_and]
    exact fun other kept => kept.2

/-- The formatter whose name is the given one in lower case. -/
def get? (registry : Registry) (name : String) : Option Formatter :=
  registry.formatters.find? (·.name == foldName name)

/-- Whether a formatter is found under the name. -/
def has (registry : Registry) (name : String) : Bool :=
  (registry.get? name).isSome

/-- Writes reports in the format of the given name. -/
def serialize (registry : Registry) (reports : List Report) (name : String) :
    Except FormatError String :=
  match registry.get? name with
  | some formatter => formatter.write reports
  | none => .error (.notFound name)

/-- The names of all formatters in ascending order. -/
def names (registry : Registry) : List String :=
  (registry.formatters.map (·.name)).mergeSort (fun a b => decide (a ≤ b))

/-- The registry of the built-in formatters. -/
def withDefaults : Registry :=
  Formatter.builtIn.foldl register empty

end Registry

end CallSig
