import CallSig.Format.Formatter
import CallSig.Json.Record
import CallSig.Proofs.Json.Layout

/-!
# Records, written and read again

An encoder and a decoder belong together when the tree of every encoded value is
decoded into that value (`Recovers`). Every record has such a pair, so the text of
a record is decoded into the record itself, with blanks in the text or without
(`decodeText_encode`).
-/

namespace CallSig.Json

variable {α : Type} {encode : α → Json} {decode : Node → Decoded α}

/-- Decoding the tree of an encoded value gives that value. -/
def Recovers (encode : α → Json) (decode : Node → Decoded α) : Prop :=
  ∀ value, decode (encode value).node = .ok value

/-- Values that are decoded again have trees of their own. -/
theorem Recovers.injective (recovers : Recovers encode decode) : Function.Injective encode := by
  intro first second same
  have decoded := recovers first
  rw [same, recovers second] at decoded
  exact (Except.ok.inj decoded).symm

/-- Decoding the text of an encoded value gives that value, with blanks in the text
or without. -/
def Restores (encode : α → Json) (decode : Node → Decoded α) : Prop :=
  ∀ value, decodeText (encode value).compact decode = .ok value ∧
    decodeText (encode value).pretty decode = .ok value

/-- What is recovered from its node is restored from its text. -/
theorem Recovers.restores (recovers : Recovers encode decode) : Restores encode decode :=
  fun value => ⟨decodeText_write Style.blank_compact (recovers value),
    decodeText_write Style.blank_pretty (recovers value)⟩

theorem ok_bind {β : Type} (value : α) (next : α → Decoded β) :
    (Except.ok value >>= next) = next value := rfl

/-! ## Lists -/

theorem nodes_eq_map (items : List Json) : nodes items = items.map node := by
  induction items with
  | nil => rfl
  | cons item rest ih => rw [nodes, ih, List.map_cons]

/-- Values are recovered one by one from the nodes of a list. -/
theorem Recovers.mapM_eq_ok (recovers : Recovers encode decode) (values : List α) :
    (values.map (node ∘ encode)).mapM decode = .ok values := by
  induction values with
  | nil => rfl
  | cons value rest ih =>
    rw [List.map_cons, List.mapM_cons, Function.comp_apply, recovers value, ih]
    rfl

theorem Recovers.list (recovers : Recovers encode decode) :
    Recovers (fun values => .array (values.map encode)) (decodeList decode) := by
  intro values
  rw [node, nodes_eq_map, List.map_map, decodeList, recovers.mapM_eq_ok values]
  rfl

/-! ## Fields of a record -/

/-- The record has a field of this name, and the field accepts this value. -/
def RecordKind.Takes (kind : RecordKind) (name : String) (value : Node) : Prop :=
  ∃ field, kind.fields.find? (·.name == name) = some field ∧ field.accepts value = .ok ()

/-- A field accepts what its decoder can read. -/
theorem FieldKind.accepts_of {value : Node} {result : α} (decoded : decode value = .ok result)
    (name : String) (required : Bool) :
    (FieldKind.of name required decode).accepts value = .ok () := by
  simp only [FieldKind.of, decoded, Except.map]

theorem lookup_eq_none {found : Found} {name : String} (fresh : name ∉ found.map Prod.fst) :
    found.lookup name = none := by
  rw [List.lookup_eq_none_iff]
  intro field inside
  have other : name ≠ field.1 := fun same => fresh (same ▸ List.mem_map_of_mem inside)
  simpa using other

/-- Fields that a record takes are all found, behind those found before. -/
theorem RecordKind.readFields_eq_ok (kind : RecordKind) :
    ∀ fields found : Found, (∀ field ∈ fields, kind.Takes field.1 field.2) →
      ((found ++ fields).map Prod.fst).Nodup →
      kind.readFields found (fields.map fun field => (.string field.1, field.2)) =
        .ok (found ++ fields)
  | [], found, _, _ => by
    rw [List.append_nil]
    rfl
  | (name, value) :: rest, found, takes, distinct => by
    obtain ⟨field, known, accepts⟩ := takes _ List.mem_cons_self
    have fresh : name ∉ found.map Prod.fst := by
      rw [List.map_append, List.nodup_append] at distinct
      intro inside
      exact distinct.2.2 name inside name List.mem_cons_self rfl
    have others := kind.readFields_eq_ok rest (found ++ [(name, value)])
      (fun field inside => takes field (List.mem_cons_of_mem _ inside))
      (by rwa [List.append_assoc])
    rw [List.append_assoc, List.singleton_append] at others
    simp only [List.map_cons, RecordKind.readFields, keyName, ok_bind, known,
      lookup_eq_none fresh, accepts]
    exact others

theorem fieldNodes_eq_map (fields : List (String × Json)) :
    fieldNodes fields = fields.map fun field => (.string field.1, field.2.node) := by
  induction fields with
  | nil => rfl
  | cons field rest ih => rw [fieldNodes, ih, List.map_cons]

/-- All fields of a written record are found, if the record takes them. -/
theorem RecordKind.read_object {kind : RecordKind} {fields : List (String × Json)}
    (takes : ∀ field ∈ fields, kind.Takes field.1 field.2.node)
    (distinct : (fields.map Prod.fst).Nodup) :
    kind.read (Json.object fields).node =
      .ok (fields.map fun field => (field.1, field.2.node)) := by
  have found := kind.readFields_eq_ok (fields.map fun field => (field.1, field.2.node)) []
    (List.forall_mem_map.mpr takes) (by simpa [Function.comp_def] using distinct)
  rw [List.map_map] at found
  rw [node, fieldNodes_eq_map, RecordKind.read]
  exact congrArg (· >>= _) found

/-- A field that has to be there is the value that was found. -/
theorem Found.required_eq_ok {found : Found} {name : String} {value : Node} {result : α}
    (present : found.lookup name = some value) (decoded : decode value = .ok result) :
    found.required name decode = .ok result := by
  rw [Found.required, present]
  exact decoded

/-- So is a field that may be left out, when it is there. -/
theorem Found.optional_eq_ok {found : Found} {name : String} {value : Node} {absent result : α}
    (present : found.lookup name = some value) (decoded : decode value = .ok result) :
    found.optional name absent decode = .ok result := by
  rw [Found.optional, present]
  exact decoded

/-- A field with a text that may be missing is taken where it stands for a text. -/
theorem RecordKind.takes_textField {kind : RecordKind} {name : String}
    (known : kind.fields.find? (·.name == name) = some (.of name false (decodeOption decodeString)))
    (value : Option String) :
    ∀ field ∈ textField name value, kind.Takes field.1 field.2.node := by
  intro field inside
  cases value with
  | none => cases inside
  | some text =>
    obtain rfl := List.mem_singleton.mp inside
    exact ⟨_, known, rfl⟩

/-! ## The records -/

/-- An argument is recovered, whichever of its parts are left out. -/
theorem recovers_argument : Recovers encodeArgument decodeArgument := by
  rintro ⟨name, _ | type, _ | default, _ | _⟩ <;> rfl

theorem recovers_arguments : Recovers encodeArguments (decodeList decodeArgument) :=
  recovers_argument.list

/-- A kind is written by its label, which stands for no other kind. -/
theorem recovers_kind : Recovers encodeKind decodeKind := by
  intro kind
  rw [encodeKind, node, decodeKind, decodeVariant, decodeVariant.variant,
    Parameter.Kind.ofLabel?_label]

/-- A parameter is recovered, its kind by the label of the kind. -/
theorem recovers_parameter : Recovers encodeParameter decodeParameter := by
  rintro ⟨name, kind, type, default, optional⟩
  have read := recovers_kind kind
  have takesKind := FieldKind.accepts_of read "kind" true
  have takes : ∀ field ∈ [("name", .string name), ("kind", encodeKind kind)] ++
      textField "annotation" type ++ textField "default" default ++
      [("optional", .bool optional)], parameterKind.Takes field.1 field.2.node := by
    simp only [List.forall_mem_append, List.forall_mem_cons]
    exact ⟨⟨⟨⟨⟨_, rfl, rfl⟩, ⟨_, rfl, takesKind⟩, List.forall_mem_nil _⟩,
      RecordKind.takes_textField rfl type⟩, RecordKind.takes_textField rfl default⟩,
      ⟨_, rfl, rfl⟩, List.forall_mem_nil _⟩
  rw [decodeParameter, encodeParameter]
  cases type <;> cases default
  all_goals
    rw [RecordKind.read_object takes (by simp [textField, field?]), ok_bind,
      Found.required_eq_ok rfl read]
    rfl

-- A list of arguments has no end in sight, so the records that hold one are not
-- read by computation alone: what is read from the list comes in as a fact.
theorem recovers_signature : Recovers encodeSignature decodeSignature := by
  rintro ⟨args, variadic⟩
  have read := recovers_arguments args
  have takes := FieldKind.accepts_of read "args" true
  rw [decodeSignature, encodeSignature, RecordKind.read_object
    (by simpa using ⟨⟨_, rfl, takes⟩, ⟨_, rfl, rfl⟩⟩) (by simp), ok_bind,
    Found.required_eq_ok rfl read]
  rfl

theorem recovers_shape : Recovers encodeShape decodeShape := by
  rintro ⟨positional, variadic⟩
  have read := recovers_arguments positional
  have takes := FieldKind.accepts_of read "positional" true
  rw [decodeShape, encodeShape, RecordKind.read_object
    (by simpa using ⟨⟨_, rfl, takes⟩, ⟨_, rfl, rfl⟩⟩) (by simp), ok_bind,
    Found.required_eq_ok rfl read]
  rfl

/-- A report is recovered, with or without a calling convention. -/
theorem recovers_report : Recovers encodeReport decodeReport := by
  rintro ⟨text, arguments, variadic, shape⟩
  have read := recovers_arguments arguments
  have takes := FieldKind.accepts_of read "arguments" true
  rcases shape with _ | shape
  · rw [decodeReport, encodeReport, RecordKind.read_object
      (by simpa [field?] using ⟨⟨_, rfl, rfl⟩, ⟨_, rfl, takes⟩, ⟨_, rfl, rfl⟩⟩)
      (by simp [field?]), ok_bind, Found.required_eq_ok rfl read]
    rfl
  · have readShape : decodeOption decodeShape (encodeShape shape).node = .ok (some shape) :=
      congrArg (Except.map some) (recovers_shape shape)
    have takesShape := FieldKind.accepts_of readShape "shape" false
    rw [decodeReport, encodeReport, RecordKind.read_object
      (by simpa [field?] using
        ⟨⟨_, rfl, rfl⟩, ⟨_, rfl, takes⟩, ⟨_, rfl, rfl⟩, ⟨_, rfl, takesShape⟩⟩)
      (by simp [field?]), ok_bind, Found.required_eq_ok rfl read,
      Found.optional_eq_ok rfl readShape]
    rfl

theorem recovers_reports : Recovers encodeReports (decodeList decodeReport) :=
  recovers_report.list

/-! ## Whole texts -/

/-- Every record is decoded from its text, whatever its texts hold, and so are the
lists of reports that the two formatters write. -/
theorem decodeText_encode :
    Restores encodeArgument decodeArgument ∧ Restores encodeSignature decodeSignature ∧
      Restores encodeParameter decodeParameter ∧ Restores encodeShape decodeShape ∧
      Restores encodeReport decodeReport ∧ Restores encodeReports (decodeList decodeReport) ∧
      ∀ reports : List Report,
        (∃ text, Formatter.json.write reports = .ok text ∧
          decodeText text (decodeList decodeReport) = .ok reports) ∧
        (∃ text, Formatter.jsonCompact.write reports = .ok text ∧
          decodeText text (decodeList decodeReport) = .ok reports) := by
  have written := recovers_reports.restores
  refine ⟨recovers_argument.restores, recovers_signature.restores, recovers_parameter.restores,
    recovers_shape.restores, recovers_report.restores, written, ?_⟩
  intro reports
  obtain ⟨compact, pretty⟩ := written reports
  exact ⟨⟨_, rfl, pretty⟩, ⟨_, rfl, compact⟩⟩

end CallSig.Json
