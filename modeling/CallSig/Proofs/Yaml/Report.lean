import CallSig.Proofs.Json.Record
import CallSig.Proofs.Yaml.Block

/-!
# Reports, told apart

The keys of reports are words, so the YAML text of a list of reports says which
list it is, whatever stands in the texts of the reports.
-/

namespace CallSig

namespace Json

/-- Fields whose keys are words and whose values have words for keys. -/
def WordedFields (fields : List (String × Json)) : Prop :=
  ∀ field ∈ fields, IsWord field.1 ∧ Worded field.2

theorem WordedFields.object {fields : List (String × Json)} (worded : WordedFields fields) :
    Worded (.object fields) :=
  .object (fun field inside => (worded field inside).1) fun field inside => (worded field inside).2

theorem wordedFields_append {front back : List (String × Json)} (first : WordedFields front)
    (second : WordedFields back) : WordedFields (front ++ back) :=
  List.forall_mem_append.mpr ⟨first, second⟩

theorem wordedFields_cons {key : String} {value : Json} {fields : List (String × Json)}
    (word : IsWord key) (worded : Worded value) (others : WordedFields fields) :
    WordedFields ((key, value) :: fields) :=
  List.forall_mem_cons.mpr ⟨⟨word, worded⟩, others⟩

theorem wordedFields_nil : WordedFields [] := nofun

/-- A field that may be left out is one of them if its value is. -/
theorem wordedFields_field? {key : String} {value : Option Json} (word : IsWord key)
    (worded : ∀ present ∈ value, Worded present) : WordedFields (field? key value) := by
  rcases value with _ | present
  · exact wordedFields_nil
  · exact wordedFields_cons word (worded present rfl) wordedFields_nil

theorem wordedFields_textField {key : String} (text : Option String) (word : IsWord key) :
    WordedFields (textField key text) := by
  refine wordedFields_field? word ?_
  intro present inside
  obtain ⟨given, -, rfl⟩ := Option.map_eq_some_iff.mp inside
  exact .string given

/-- The keys of an argument are words. -/
theorem worded_argument (arg : Argument) : Worded (encodeArgument arg) := by
  refine (wordedFields_append (wordedFields_append (wordedFields_append
    (wordedFields_cons (by decide) (.string _) wordedFields_nil)
    (wordedFields_textField _ (by decide))) (wordedFields_textField _ (by decide))) ?_).object
  split_ifs
  · exact wordedFields_cons (by decide) (.bool true) wordedFields_nil
  · exact wordedFields_nil

theorem worded_map {α : Type} {encode : α → Json} (worded : ∀ value, Worded (encode value))
    (values : List α) : Worded (.array (values.map encode)) :=
  .array (List.forall_mem_map.mpr fun value _ => worded value)

theorem worded_shape (shape : CallShape) : Worded (encodeShape shape) :=
  (wordedFields_cons (by decide) (worded_map worded_argument shape.positional)
    (wordedFields_cons (by decide) (.bool shape.variadic) wordedFields_nil)).object

/-- The keys of a report are words. -/
theorem worded_report (report : Report) : Worded (encodeReport report) := by
  refine (wordedFields_append (wordedFields_cons (by decide) (.string report.signature)
    (wordedFields_cons (by decide) (worded_map worded_argument report.arguments)
      (wordedFields_cons (by decide) (.bool report.variadic) wordedFields_nil)))
    (wordedFields_field? (by decide) ?_)).object
  intro present inside
  obtain ⟨shape, -, rfl⟩ := Option.map_eq_some_iff.mp inside
  exact worded_shape shape

end Json

/-- Two lists of reports with the same YAML text are the same list. -/
theorem eq_of_yaml_write {first second : List Report} {text : String}
    (written : Formatter.yaml.write first = .ok text)
    (same : Formatter.yaml.write second = .ok text) : first = second := by
  have texts : Yaml.render (Json.encodeReports first) = Yaml.render (Json.encodeReports second) :=
    Except.ok.inj (written.trans same.symm)
  have values : Json.encodeReports first = Json.encodeReports second :=
    Yaml.render_inj (Json.worded_map Json.worded_report first)
      (Json.worded_map Json.worded_report second) texts
  exact Json.recovers_reports.injective values

/-- A signature of two lines, and a default that reads as a truth value. -/
theorem eq_of_yaml_write_multiline :
    let text := "- signature: |-\n    (a\n     [, b=true])\n  arguments:\n" ++
      "  - name: a\n  - name: b\n    default: 'true'\n    optional: true\n  variadic: false\n"
    Formatter.yaml.write [Report.ofText "(a\n [, b=true])" false] = .ok text ∧
      Formatter.yaml.write [⟨"(a\n [, b=true])",
          [⟨"a", none, none, false⟩, ⟨"b", none, some "true", true⟩], false, none⟩] = .ok text ∧
      [Report.ofText "(a\n [, b=true])" false] = [⟨"(a\n [, b=true])",
          [⟨"a", none, none, false⟩, ⟨"b", none, some "true", true⟩], false, none⟩] := by
  intro text
  have written : Formatter.yaml.write [Report.ofText "(a\n [, b=true])" false] = .ok text := by
    decide +kernel
  have same : Formatter.yaml.write [⟨"(a\n [, b=true])",
          [⟨"a", none, none, false⟩, ⟨"b", none, some "true", true⟩], false, none⟩] = .ok text := by
    decide +kernel
  exact ⟨written, same, eq_of_yaml_write written same⟩

end CallSig
