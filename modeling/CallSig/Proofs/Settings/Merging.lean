import CallSig.Settings.Loader

/-!
# What a document says about a setting

A setting is a field of a section of the tree. An entry of a document may give it a
value in several ways: as a field of the table that stands for the section, or by a
path that leads to it. `Setting.given?` lists the values that a document gives, and
fails when an entry puts something else in the place of the setting or of its section.

A tree that has a value for the setting (`Carries`) keeps one when a document is laid
over it: the value given, or else the former one (`Carries.applyDocument`).

The entries of a table come in any order. Of a document that gives a setting at most
one value the order does not count (`Setting.given?_walk`, `Machine.filter_walk`).
-/

namespace CallSig.Settings

open CallSig.Settings.Value

/-- The settings that there are. -/
inductive Setting where
  | commentMark
  | format
  | shape
  deriving Repr, DecidableEq

namespace Setting

/-- What the values of a setting are. -/
abbrev Kind : Setting → Type
  | .commentMark => String
  | .format => String
  | .shape => Bool

def sectionName : Setting → String
  | .commentMark => "input"
  | .format => "output"
  | .shape => "output"

def fieldName : Setting → String
  | .commentMark => "comment_prefix"
  | .format => "format"
  | .shape => "shape"

/-- The value of a setting that is not set. -/
def default : (setting : Setting) → setting.Kind
  | .commentMark => "#"
  | .format => "json"
  | .shape => false

/-- The value of one of the settings. -/
def get (settings : Settings) : (setting : Setting) → setting.Kind
  | .commentMark => settings.commentMark
  | .format => settings.format
  | .shape => settings.shape

/-- A value as it stands in the tree. -/
def scalar : (setting : Setting) → setting.Kind → Scalar
  | .commentMark, value => .text value
  | .format, value => .text value
  | .shape, value => .bool value

/-- The value that a scalar of the right type is. -/
def ofScalar? : (setting : Setting) → Scalar → Option setting.Kind
  | .commentMark, .text value => some value
  | .format, .text value => some value
  | .shape, .bool value => some value
  | _, _ => none

/-- The value that a value of a document is, if it is of the right type. -/
def ofToml? : (setting : Setting) → Toml.Value → Option setting.Kind
  | .commentMark, .string value => some value
  | .format, .string value => some value
  | .shape, .bool value => some value
  | _, _ => none

/-! ## Values in a document -/

/-- The values that an entry gives the setting, by what is left of its path behind the
section: at its end a table is merged into the section, before that something is set
in it. -/
def givenInside? (setting : Setting) : KeyPath → Toml.Value → Option (List setting.Kind)
  | [], .table fields =>
    (fields.filter fun field => foldName field.1 = setting.fieldName).mapM fun field =>
      setting.ofToml? field.2
  | [.field name], value =>
    if foldName name = setting.fieldName then (setting.ofToml? value).map ([·]) else some []
  | .field name :: _ :: _, _ => if foldName name = setting.fieldName then none else some []
  | _, _ => none

/-- The values that an entry gives the setting, by its path. -/
def givenAt? (setting : Setting) : KeyPath → Toml.Value → Option (List setting.Kind)
  | .field name :: rest, value =>
    if foldName name = setting.sectionName then setting.givenInside? rest value else some []
  | _, _ => none

/-- The values that a document gives the setting, one after another, and nothing if it
puts something else in the place of the setting or of its section. -/
def given? (setting : Setting) : List (String × Toml.Value) → Option (List setting.Kind)
  | [] => some []
  | (key, value) :: rest => do
    let first ← setting.givenAt? (topPath key) value
    let later ← setting.given? rest
    pure (first ++ later)

end Setting

/-! ## Trees with a value for a setting -/

/-- The section has a value for the setting. -/
def Holds (part : Value) (setting : Setting) (value : setting.Kind) : Prop :=
  ∃ origin, part.field? setting.fieldName = some (.scalar origin (setting.scalar value))

/-- The tree has a value for the setting. -/
def Carries (root : Value) (setting : Setting) (value : setting.Kind) : Prop :=
  ∃ part, root.field? setting.sectionName = some part ∧ Holds part setting value

variable {setting other : Setting} {value new : setting.Kind} {values : List setting.Kind}
  {root part field : Value} {name : String}

/-- The defaults have a value for every setting. -/
theorem carries_defaults (setting : Setting) : Carries defaults setting setting.default := by
  cases setting <;> exact ⟨_, rfl, _, rfl⟩

/-- What has a field is a table. -/
theorem exists_table_of_field? (found : part.field? name = some field) :
    ∃ origin fields, part = .table origin fields ∧ fields.lookup name = some field := by
  cases part with
  | table origin fields => exact ⟨origin, fields, rfl, found⟩
  | scalar => cases found
  | array => cases found

/-- The mark of comments is read from a section that has a value for it. -/
theorem inputOf_of_holds {mark : String} (holds : Holds part .commentMark mark) :
    inputOf part = .ok mark := by
  obtain ⟨origin, found⟩ := holds
  obtain ⟨_, fields, rfl, markAt⟩ := exists_table_of_field? found
  have markAt : fields.lookup "comment_prefix" = some (.scalar origin (.text mark)) := markAt
  rw [inputOf, markAt]
  rfl

/-- Format and shape are read from a section that has values for both. -/
theorem outputOf_of_holds {format : String} {shape : Bool} (holdsFormat : Holds part .format format)
    (holdsShape : Holds part .shape shape) : outputOf part = .ok (format, shape) := by
  obtain ⟨formatOrigin, formatFound⟩ := holdsFormat
  obtain ⟨shapeOrigin, shapeFound⟩ := holdsShape
  obtain ⟨_, fields, rfl, formatAt⟩ := exists_table_of_field? formatFound
  have formatAt : fields.lookup "format" = some (.scalar formatOrigin (.text format)) := formatAt
  have shapeAt : fields.lookup "shape" = some (.scalar shapeOrigin (.bool shape)) := shapeFound
  rw [outputOf, formatAt, shapeAt]
  rfl

/-- The settings are read from a tree that has a value for each of them. -/
theorem ofValue_of_carries {settings : Settings}
    (carries : ∀ setting : Setting, Carries root setting (setting.get settings)) :
    ofValue root = .ok settings := by
  obtain ⟨input, inputAt, mark⟩ := carries .commentMark
  obtain ⟨output, outputAt, format⟩ := carries .format
  obtain ⟨again, againAt, shape⟩ := carries .shape
  have sameOutput : some output = some again := outputAt.symm.trans againAt
  cases sameOutput
  have inputRead := inputOf_of_holds mark
  have outputRead := outputOf_of_holds format shape
  have inputAt : root.field? "input" = some input := inputAt
  have outputAt : root.field? "output" = some output := outputAt
  rw [ofValue, inputAt, outputAt, Option.map_some, Option.map_some, inputRead, outputRead]
  rfl

/-! ## Any order -/

theorem eq_of_perm_of_length_le_one {α : Type} {first second : List α}
    (perm : first.Perm second) (short : second.length ≤ 1) : first = second := by
  cases second with
  | nil => exact List.perm_nil.mp perm
  | cons only rest =>
    have alone : rest = [] := by simpa using short
    subst alone
    exact List.perm_singleton.mp perm

/-- Where at most one entry is wanted, it is found in any order. -/
theorem Machine.filter_walk {α : Type} {wanted : α → Bool} {entries : List α} (machine : Machine)
    (once : (entries.filter wanted).length ≤ 1) :
    (machine.walk entries).filter wanted = entries.filter wanted :=
  eq_of_perm_of_length_le_one ((machine.walk_perm entries).filter wanted) once

/-- The values that a document gives are those of its entries, one entry after another. -/
theorem Setting.given?_eq_some_iff {fields : List (String × Toml.Value)} :
    setting.given? fields = some values ↔
      (∀ entry ∈ fields, (setting.givenAt? (topPath entry.1) entry.2).isSome) ∧
        values = fields.flatMap fun entry =>
          (setting.givenAt? (topPath entry.1) entry.2).getD [] := by
  induction fields generalizing values with
  | nil =>
    constructor
    · intro given
      have none : ∀ entry ∈ ([] : List (String × Toml.Value)),
          (setting.givenAt? (topPath entry.1) entry.2).isSome := List.forall_mem_nil _
      exact ⟨none, (Option.some.inj given).symm⟩
    · intro given
      exact congrArg some given.2.symm
  | cons entry rest ih =>
    obtain ⟨key, document⟩ := entry
    rw [given?, List.forall_mem_cons, List.flatMap_cons]
    cases setting.givenAt? (topPath key) document with
    | none => simp
    | some first =>
      simp only [Option.bind_eq_bind, Option.bind_some, Option.bind_eq_some_iff, ih,
        Option.isSome_some, Option.getD_some, true_and]
      constructor
      · rintro ⟨later, ⟨behind, rfl⟩, listed⟩
        exact ⟨behind, (Option.some.inj listed).symm⟩
      · rintro ⟨behind, rfl⟩
        exact ⟨_, ⟨behind, rfl⟩, rfl⟩

/-- A document that gives a setting at most one value gives it in any order. -/
theorem Setting.given?_walk {fields : List (String × Toml.Value)} (machine : Machine)
    (given : setting.given? fields = some values) (once : values.length ≤ 1) :
    setting.given? (machine.walk fields) = some values := by
  obtain ⟨each, listed⟩ := Setting.given?_eq_some_iff.mp given
  have perm := machine.walk_perm fields
  refine Setting.given?_eq_some_iff.mpr ⟨fun entry inside => each entry (perm.mem_iff.mp inside), ?_⟩
  rw [listed] at once ⊢
  exact (eq_of_perm_of_length_le_one (perm.flatMap_right _) once).symm

/-! ## Merging and setting -/

theorem Holds.withField_of_ne (holds : Holds part setting value)
    (apart : setting.fieldName ≠ name) : Holds (part.withField name field) setting value := by
  obtain ⟨origin, found⟩ := holds
  exact ⟨origin, (field?_withField_of_ne part field apart).trans found⟩

theorem holds_withField_self (part : Value) (origin : Option String) (value : setting.Kind) :
    Holds (part.withField setting.fieldName (.scalar origin (setting.scalar value))) setting
      value :=
  ⟨origin, field?_withField_self _ _ _⟩

/-- A value of the right type replaces what stood in its place. -/
theorem ofToml_of_ofToml? {document : Toml.Value} (typed : setting.ofToml? document = some value)
    (machine : Machine) (origin : Option String) :
    ofToml machine origin document = .scalar origin (setting.scalar value) := by
  cases setting <;> cases document <;> cases typed <;> rfl

/-- A scalar replaces what stood in its place. -/
theorem merged_scalar (former : Option Value) (origin : Option String) (scalar : Scalar) :
    merged former (.scalar origin scalar) = .scalar origin scalar := rfl

/-- What a table of a document says about a setting, in the tree. -/
theorem filter_fieldsOfToml {fields : List (String × Toml.Value)}
    (given : (fields.filter fun field => foldName field.1 = setting.fieldName).mapM
      (fun field => setting.ofToml? field.2) = some values)
    (machine : Machine) (origin : Option String) :
    ((fieldsOfToml machine origin fields).filter fun field =>
        foldName field.1 = setting.fieldName).map Prod.snd =
      values.map fun value => .scalar origin (setting.scalar value) := by
  induction fields generalizing values with
  | nil =>
    cases given
    rfl
  | cons entry rest ih =>
    obtain ⟨name, document⟩ := entry
    rw [fieldsOfToml]
    by_cases same : foldName name = setting.fieldName
    · rw [List.filter_cons_of_pos (by simpa using same), List.mapM_cons] at given
      obtain ⟨first, typed, given⟩ := Option.bind_eq_some_iff.mp given
      obtain ⟨later, behind, listed⟩ := Option.bind_eq_some_iff.mp given
      cases listed
      rw [List.filter_cons_of_pos (by simpa using same), List.map_cons, List.map_cons, ih behind,
        ofToml_of_ofToml? typed]
    · rw [List.filter_cons_of_neg (by simpa using same)] at given ⊢
      exact ih given

/-- A table is merged into a section field by field. -/
theorem Holds.mergedFields {fields : Fields} {origin : Option String}
    (holds : Holds part setting value)
    (given : (fields.filter fun field => foldName field.1 = setting.fieldName).map Prod.snd =
      values.map fun value => .scalar origin (setting.scalar value)) :
    Holds (mergedFields part fields) setting (values.getLastD value) := by
  induction fields generalizing part value values with
  | nil =>
    have nothing : values = [] := List.map_eq_nil_iff.mp given.symm
    rw [nothing]
    exact holds
  | cons entry rest ih =>
    obtain ⟨name, field⟩ := entry
    rw [Value.mergedFields]
    by_cases same : foldName name = setting.fieldName
    · rw [List.filter_cons_of_pos (by simpa using same), List.map_cons] at given
      cases values with
      | nil => cases given
      | cons first later =>
        obtain ⟨isFirst, behind⟩ := List.cons.inj given
        have isFirst : field = .scalar origin (setting.scalar first) := isFirst
        rw [isFirst, merged_scalar, same, List.getLastD_cons]
        exact ih (holds_withField_self part origin first) behind
    · rw [List.filter_cons_of_neg (by simpa using same)] at given
      exact ih (holds.withField_of_ne (Ne.symm same)) given

/-- A table of a document that has at most one value for the setting is merged into the
section in any order. -/
theorem Holds.merged {document : Toml.Value} (holds : Holds part setting value)
    (given : setting.givenInside? [] document = some values) (once : values.length ≤ 1)
    (machine : Machine) (origin : Option String) :
    Holds (merged (some part) (ofToml machine origin document)) setting
      (values.getLastD value) := by
  cases document with
  | table fields =>
    have listed := filter_fieldsOfToml given machine origin
    have single := congrArg List.length listed
    rw [List.length_map, List.length_map] at single
    have sameInAnyOrder := machine.filter_walk (single ▸ once)
    rw [ofToml, Value.merged, Option.getD_some]
    exact holds.mergedFields ((congrArg (List.map Prod.snd) sameInAnyOrder).trans listed)
  | _ => cases given

/-- A path of several steps sets a field to something. -/
theorem exists_set_field (name : String) (rest : KeyPath) (root value : Value) :
    ∃ field, KeyPath.set (.field name :: rest) root value =
      root.withField (foldName name) field := by
  cases rest with
  | nil => exact ⟨_, rfl⟩
  | cons step rest => exact ⟨_, rfl⟩

/-- Setting something below a section. -/
theorem Holds.set {step : Step} {rest : KeyPath} {document : Toml.Value}
    (holds : Holds part setting value)
    (given : setting.givenInside? (step :: rest) document = some values) (machine : Machine)
    (origin : Option String) :
    Holds (KeyPath.set (step :: rest) part (ofToml machine origin document)) setting
      (values.getLastD value) := by
  cases step with
  | item place => cases given
  | field name =>
    by_cases same : foldName name = setting.fieldName
    · cases rest with
      | nil =>
        rw [Setting.givenInside?, if_pos same] at given
        obtain ⟨only, typed, rfl⟩ := Option.map_eq_some_iff.mp given
        rw [KeyPath.set, ofToml_of_ofToml? typed, merged_scalar, same]
        exact holds_withField_self part origin only
      | cons next rest =>
        rw [Setting.givenInside?, if_pos same] at given
        cases given
    · have nothing : values = [] := by
        cases rest with
        | nil =>
          rw [Setting.givenInside?, if_neg same] at given
          exact (Option.some.inj given).symm
        | cons next rest =>
          rw [Setting.givenInside?, if_neg same] at given
          exact (Option.some.inj given).symm
      obtain ⟨field, set⟩ := exists_set_field name rest part (ofToml machine origin document)
      rw [nothing, set]
      exact holds.withField_of_ne (Ne.symm same)

/-- What is set at a path of a document is the value it gives, or leaves the former one. -/
theorem Carries.set {path : KeyPath} {document : Toml.Value} (carries : Carries root setting value)
    (given : setting.givenAt? path document = some values) (once : values.length ≤ 1)
    (machine : Machine) (origin : Option String) :
    Carries (path.set root (ofToml machine origin document)) setting (values.getLastD value) := by
  obtain ⟨part, found, holds⟩ := carries
  rcases path with _ | ⟨⟨name⟩ | ⟨place⟩, rest⟩
  · cases given
  · by_cases same : foldName name = setting.sectionName
    · rw [Setting.givenAt?, if_pos same] at given
      cases rest with
      | nil =>
        rw [KeyPath.set, same, found]
        exact ⟨_, field?_withField_self _ _ _, holds.merged given once machine origin⟩
      | cons step rest =>
        have set : KeyPath.set (.field name :: step :: rest) root (ofToml machine origin document) =
            root.withField (foldName name) (KeyPath.set (step :: rest)
              ((root.field? (foldName name)).getD (.byHand .nil))
              (ofToml machine origin document)) := rfl
        rw [set, same, found]
        exact ⟨_, field?_withField_self _ _ _, holds.set given machine origin⟩
    · rw [Setting.givenAt?, if_neg same] at given
      cases given
      obtain ⟨field, set⟩ := exists_set_field name rest root (ofToml machine origin document)
      rw [set]
      exact ⟨part, (field?_withField_of_ne root field (Ne.symm same)).trans found, holds⟩
  · cases given

theorem getLastD_append {α : Type} (first later : List α) (former : α) :
    (first ++ later).getLastD former = later.getLastD (first.getLastD former) := by
  simp only [List.getLastD_eq_getLast?, List.getLast?_append, Option.getD_or]

/-- There is room for the lists that have the places of the path. -/
def KeyPath.HasRoom (room : Nat) (path : KeyPath) : Prop :=
  ∀ step ∈ path, step.hasRoom room = true

/-- With more room there is still room. -/
theorem KeyPath.HasRoom.mono {room more : Nat} {path : KeyPath} (fits : path.HasRoom room)
    (le : room ≤ more) : path.HasRoom more := by
  intro step inside
  have here := fits step inside
  cases step with
  | field name => rfl
  | item place =>
    rw [Step.hasRoom, decide_eq_true_eq] at here ⊢
    exact Nat.le_trans here le

/-- Where there is room for the path, the value is set. -/
theorem KeyPath.HasRoom.setWithin {room : Nat} {path : KeyPath} (fits : path.HasRoom room)
    (root value : Value) : path.setWithin room root value = .ok (path.set root value) :=
  if_pos (List.all_eq_true.mpr fits)

/-- Values set at paths for which there is room are all set. -/
theorem foldlM_setWithin {α : Type} {room : Nat} {path : α → KeyPath} {entries : List α}
    (fits : ∀ entry ∈ entries, (path entry).HasRoom room) (field : α → Value) (root : Value) :
    entries.foldlM (fun root entry => (path entry).setWithin room root (field entry)) root =
      .ok (entries.foldl (fun root entry => (path entry).set root (field entry)) root) := by
  induction entries generalizing root with
  | nil => rfl
  | cons entry rest ih =>
    rw [List.forall_mem_cons] at fits
    rw [List.foldlM_cons, fits.1.setWithin]
    exact ih fits.2 _

/-- The tree with the fields of a document set in their order. -/
def setFields (machine : Machine) (name : String) (root : Value)
    (fields : List (String × Toml.Value)) : Value :=
  fields.foldl (fun root entry =>
    (topPath entry.1).set root (ofToml machine (some name) entry.2)) root

/-- A document for whose paths there is room is laid over a tree. -/
theorem applyDocument_eq_ok {machine : Machine} {fields : List (String × Toml.Value)}
    (fits : ∀ entry ∈ fields, (topPath entry.1).HasRoom machine.room) (name : String)
    (root : Value) :
    applyDocument machine name root fields =
      .ok (setFields machine name root (machine.walk fields)) := by
  have fitsWalk : ∀ entry ∈ machine.walk fields, (topPath entry.1).HasRoom machine.room :=
    fun entry inside => fits entry ((machine.walk_perm fields).mem_iff.mp inside)
  exact foldlM_setWithin fitsWalk (fun entry => ofToml machine (some name) entry.2) root

/-- A document laid over a tree, entry by entry. -/
theorem Carries.setFields {fields : List (String × Toml.Value)}
    (carries : Carries root setting value) (given : setting.given? fields = some values)
    (once : values.length ≤ 1) (machine : Machine) (name : String) :
    Carries (setFields machine name root fields) setting (values.getLastD value) := by
  induction fields generalizing root value values with
  | nil =>
    cases given
    exact carries
  | cons entry rest ih =>
    obtain ⟨key, document⟩ := entry
    obtain ⟨first, here, given⟩ := Option.bind_eq_some_iff.mp given
    obtain ⟨later, behind, listed⟩ := Option.bind_eq_some_iff.mp given
    cases listed
    rw [List.length_append] at once
    rw [getLastD_append]
    exact ih (carries.set here (by omega) machine (some name)) behind (by omega)

/-- A document that gives a setting at most one value is laid over a tree in any order. -/
theorem Carries.applyDocument {fields : List (String × Toml.Value)} {next : Value}
    {machine : Machine} {name : String} (carries : Carries root setting value)
    (given : setting.given? fields = some values) (once : values.length ≤ 1)
    (fits : ∀ entry ∈ fields, (topPath entry.1).HasRoom machine.room)
    (applied : applyDocument machine name root fields = .ok next) :
    Carries next setting (values.getLastD value) := by
  rw [applyDocument_eq_ok fits, Except.ok.injEq] at applied
  rw [← applied]
  exact carries.setFields (setting.given?_walk machine given once) once machine name

/-! ## Values set by hand -/

namespace Setting

/-- The path of a setting in the tree. -/
def path (setting : Setting) : KeyPath :=
  [.field setting.sectionName, .field setting.fieldName]

/-- A setting has its place in a table, for which there is always room. -/
theorem path_hasRoom (setting : Setting) (room : Nat) : setting.path.HasRoom room := by
  intro step inside
  rcases List.mem_cons.mp inside with rfl | field
  · rfl
  · rw [List.mem_singleton.mp field]
    rfl

/-- A value as a document writes it. -/
def toToml : (setting : Setting) → setting.Kind → Toml.Value
  | .commentMark, value => .string value
  | .format, value => .string value
  | .shape, value => .bool value

/-- A value set by hand stands in the tree as one of a document without a file does. -/
theorem byHand_scalar (setting : Setting) (value : setting.Kind) :
    byHand (setting.scalar value) = Value.ofToml .usual none (setting.toToml value) := by
  cases setting <;> rfl

theorem foldName_sectionName (setting : Setting) :
    foldName setting.sectionName = setting.sectionName := by
  cases setting <;> decide +kernel

theorem foldName_fieldName (setting : Setting) :
    foldName setting.fieldName = setting.fieldName := by
  cases setting <;> decide +kernel

/-- A value at the path of a setting is given to the setting. -/
theorem givenAt?_path_self (setting : Setting) (value : setting.Kind) :
    setting.givenAt? setting.path (setting.toToml value) = some [value] := by
  have typed : setting.ofToml? (setting.toToml value) = some value := by cases setting <;> rfl
  rw [path, givenAt?, if_pos setting.foldName_sectionName, givenInside?,
    if_pos setting.foldName_fieldName, typed]
  rfl

theorem path_injective (same : other.path = setting.path) : other = setting := by
  cases setting <;> cases other <;> simp_all [path, sectionName, fieldName]

/-- A value of one setting leaves the others as they are. -/
theorem givenAt?_path_of_ne (distinct : other ≠ setting) (value : Toml.Value) :
    setting.givenAt? other.path value = some [] := by
  rw [path, givenAt?, foldName_sectionName]
  split
  · next sameSection =>
    have otherField : other.fieldName ≠ setting.fieldName :=
      fun sameField => distinct (path_injective (by rw [path, path, sameSection, sameField]))
    rw [givenInside?, foldName_fieldName, if_neg otherField]
  · rfl

end Setting

/-- A value set by hand is the value of its setting. -/
theorem Carries.setByHand_self (carries : Carries root setting value) (new : setting.Kind) :
    Carries (setting.path.set root (.byHand (setting.scalar new))) setting new := by
  rw [Setting.byHand_scalar]
  exact carries.set (setting.givenAt?_path_self new) (Nat.le_refl 1) .usual none

/-- A value set by hand leaves the other settings as they are. -/
theorem Carries.setByHand_of_ne (carries : Carries root setting value) (distinct : other ≠ setting)
    (new : other.Kind) :
    Carries (other.path.set root (.byHand (other.scalar new))) setting value := by
  rw [Setting.byHand_scalar]
  exact carries.set (Setting.givenAt?_path_of_ne distinct _) (Nat.zero_le 1) .usual none

end CallSig.Settings
