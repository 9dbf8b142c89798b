import Mathlib
import CallSig.Proofs.Files
import CallSig.Proofs.Settings.Merging

/-!
# Settings layered in any order

A loader is made by steps, each of which adds a file or sets a value by hand.
`buildAfter_eq` says what comes out of any number of them, as long as the files and
the values set by hand give the settings values of their types, and no file asks for a
list that there is no room for: a file that has to be there and is not is an error;
otherwise each setting on its own is the last value set by hand, or else the value of
the last file that gives it one, or else the default.

So the order of files and of values set by hand counts only among themselves, and
that of values set by hand only for one setting. The order in which the machine goes
through the entries of a file does not count at all, as no file gives a setting two
values; that is why the result is said once for all machines (`buildAfter_eq_layers`).
-/

namespace CallSig.Settings

/-- One step in the making of a loader. -/
inductive LoadStep where
  | file (path : String)
  | optionalFile (path : String)
  | override (key : String) (value : Scalar)

namespace LoadStep

def apply (loader : Loader) : LoadStep → Except Error Loader
  | .file path => .ok (loader.withFile path)
  | .optionalFile path => .ok (loader.withOptionalFile path)
  | .override key value => loader.withOverride key value

/-- The layer that a step adds. -/
def layer? : LoadStep → Option Layer
  | .file path => some ⟨path, true⟩
  | .optionalFile path => some ⟨path, false⟩
  | .override _ _ => none

end LoadStep

/-- The settings that a loader gives after more steps. -/
def Loader.buildAfter (machine : Machine) (start : Loader) (steps : List LoadStep)
    (files : Files) : Except Error Settings := do
  (← steps.foldlM LoadStep.apply start).buildOn machine files

/-- The layers of a loader after more steps. -/
def layersAfter (start : Loader) (steps : List LoadStep) : List Layer :=
  start.layers ++ steps.filterMap LoadStep.layer?

/-- The document gives no setting more than one value, each of its type, puts nothing
else in their places, and there is room for the lists that its keys lead to. -/
structure Suits (room : Nat) (fields : List (String × Toml.Value)) : Prop where
  gives : ∀ setting : Setting, ∃ values, setting.given? fields = some values ∧ values.length ≤ 1
  fits : ∀ entry ∈ fields, (topPath entry.1).HasRoom room

/-- If there is a file at the path, it is a document that suits the settings. -/
def Fits (room : Nat) (files : Files) (path : String) : Prop :=
  ∀ name bytes, findFile? files path = some (name, bytes) →
    ∃ text fields, textOfBytes bytes = .ok text ∧ Toml.read? text = some (.table fields) ∧
      Suits room fields

/-- A document that suits the settings does so with more room. -/
theorem Suits.mono {room more : Nat} {fields : List (String × Toml.Value)}
    (suits : Suits room fields) (le : room ≤ more) : Suits more fields :=
  ⟨suits.gives, fun entry inside => (suits.fits entry inside).mono le⟩

/-- A file that fits does so with more room. -/
theorem Fits.mono {room more : Nat} {files : Files} {path : String} (fits : Fits room files path)
    (le : room ≤ more) : Fits more files path := by
  intro name bytes found
  obtain ⟨text, fields, decoded, read, suits⟩ := fits name bytes found
  exact ⟨text, fields, decoded, read, suits.mono le⟩

/-- Whether the file has to be there and is not. -/
def Layer.missing (files : Files) (layer : Layer) : Bool :=
  layer.required && (findFile? files layer.path).isNone

namespace Setting

/-- The key of a setting. -/
def key : Setting → String
  | .commentMark => "input.comment_prefix"
  | .format => "output.format"
  | .shape => "output.shape"

/-- The values that a file gives a setting. -/
def givenBy (setting : Setting) (files : Files) (layer : Layer) : List setting.Kind :=
  match layerText files layer.path with
  | .ok (_, text) =>
    match Toml.read? text with
    | some (.table fields) => (setting.given? fields).getD []
    | _ => []
  | .error _ => []

/-- The value that a step sets a setting to by hand. -/
def setBy? (setting : Setting) : LoadStep → Option setting.Kind
  | .override key value => if key = setting.key then setting.ofScalar? value else none
  | _ => none

/-- The last value set by hand, or else the last value that a file gives, or else the
default. -/
def layered (setting : Setting) (start : Loader) (steps : List LoadStep) (files : Files) :
    setting.Kind :=
  (steps.filterMap setting.setBy?).getLastD
    (((layersAfter start steps).flatMap (setting.givenBy files)).getLastD setting.default)

end Setting

/-- What comes out of the steps: the error on the first file that is missing, or each
setting on its own. -/
def layeredSettings (start : Loader) (steps : List LoadStep) (files : Files) :
    Except Error Settings :=
  match (layersAfter start steps).find? (Layer.missing files) with
  | some layer => .error (.fileMissing layer.path)
  | none =>
    .ok ⟨Setting.layered .commentMark start steps files,
      Setting.layered .format start steps files, Setting.layered .shape start steps files⟩

/-- If the step sets something by hand, it is one of the settings and a value of its
type. -/
def LoadStep.Typed (step : LoadStep) : Prop :=
  ∀ key value, step = .override key value →
    ∃ (setting : Setting) (typed : setting.Kind), key = setting.key ∧ value = setting.scalar typed

/-! ## The layers -/

variable {machine : Machine} {setting : Setting} {value : setting.Kind} {root : Value}
  {files : Files} {layer : Layer} {layers : List Layer} {start loader : Loader}
  {steps : List LoadStep}

theorem Setting.givenBy_of_missing (missing : findFile? files layer.path = none)
    (setting : Setting) : setting.givenBy files layer = [] := by
  rw [givenBy, layerText, missing]

theorem Setting.givenBy_of_read {name text : String} {bytes : ByteArray}
    {fields : List (String × Toml.Value)} (found : findFile? files layer.path = some (name, bytes))
    (decoded : textOfBytes bytes = .ok text) (read : Toml.read? text = some (.table fields))
    (setting : Setting) : setting.givenBy files layer = (setting.given? fields).getD [] := by
  simp only [givenBy, layerText, found, decoded, read]

/-- A file that has to be there and is not is the error. -/
theorem applyLayer_of_missing (missing : layer.missing files = true) (machine : Machine)
    (root : Value) : applyLayer machine files root layer = .error (.fileMissing layer.path) := by
  rw [Layer.missing, Bool.and_eq_true, Option.isNone_iff_eq_none] at missing
  simp only [applyLayer, layerText, missing.1, missing.2, if_true]

/-- A file laid over a tree gives each setting its value, if it has one. -/
theorem applyLayer_of_fits (fits : Fits machine.room files layer.path)
    (present : layer.missing files = false) (root : Value) :
    ∃ next, applyLayer machine files root layer = .ok next ∧
      ∀ (setting : Setting) (value : setting.Kind), Carries root setting value →
        Carries next setting ((setting.givenBy files layer).getLastD value) := by
  cases found : findFile? files layer.path with
  | none =>
    have absent : layerText files layer.path = .error (.fileMissing layer.path) := by
      rw [layerText, found]
    have optional : layer.required = false := by
      rwa [Layer.missing, found, Option.isNone_none, Bool.and_true] at present
    refine ⟨root, by simp [applyLayer, absent, optional], fun setting value carries => ?_⟩
    rw [setting.givenBy_of_missing found]
    exact carries
  | some file =>
    obtain ⟨name, bytes⟩ := file
    obtain ⟨text, fields, decoded, read, suits⟩ := fits name bytes found
    have layerIs : layerText files layer.path = .ok (name, text) := by
      simp only [layerText, found, decoded]
    have applied := applyDocument_eq_ok suits.fits name root
    refine ⟨setFields machine name root (machine.walk fields), ?_, fun setting value carries => ?_⟩
    · simp only [applyLayer, layerIs, read]
      exact applied
    · obtain ⟨values, gives, once⟩ := suits.gives setting
      rw [setting.givenBy_of_read found decoded read, gives, Option.getD_some]
      exact carries.applyDocument gives once suits.fits applied

/-- Layers over a tree, one after another. -/
theorem foldlM_applyLayer_of_fits (fits : ∀ layer ∈ layers, Fits machine.room files layer.path)
    (present : ∀ layer ∈ layers, layer.missing files = false) (root : Value) :
    ∃ next, layers.foldlM (applyLayer machine files) root = .ok next ∧
      ∀ (setting : Setting) (value : setting.Kind), Carries root setting value →
        Carries next setting ((layers.flatMap (setting.givenBy files)).getLastD value) := by
  induction layers generalizing root with
  | nil => exact ⟨root, rfl, fun setting value carries => carries⟩
  | cons layer rest ih =>
    rw [List.forall_mem_cons] at fits present
    obtain ⟨next, applied, here⟩ := applyLayer_of_fits fits.1 present.1 root
    obtain ⟨last, appliedRest, behind⟩ := ih fits.2 present.2 next
    refine ⟨last, ?_, fun setting value carries => ?_⟩
    · rw [List.foldlM_cons, applied]
      exact appliedRest
    · rw [List.flatMap_cons, getLastD_append]
      exact behind setting _ (here setting value carries)

/-- Of the files that have to be there and are not the first one is the error. -/
theorem foldlM_applyLayer_of_missing
    (fits : ∀ layer ∈ layers, Fits machine.room files layer.path)
    (missing : layers.find? (Layer.missing files) = some layer) (root : Value) :
    layers.foldlM (applyLayer machine files) root = .error (.fileMissing layer.path) := by
  induction layers generalizing root with
  | nil => cases missing
  | cons first rest ih =>
    rw [List.forall_mem_cons] at fits
    rw [List.foldlM_cons]
    cases absent : first.missing files with
    | true =>
      rw [List.find?_cons_of_pos absent, Option.some.injEq] at missing
      rw [applyLayer_of_missing absent, missing]
      rfl
    | false =>
      rw [List.find?_cons_of_neg (by simp [absent])] at missing
      obtain ⟨next, applied, -⟩ := applyLayer_of_fits fits.1 absent root
      rw [applied]
      exact ih fits.2 missing next

/-! ## Values set by hand -/

theorem parse?_key (setting : Setting) : KeyPath.parse? setting.key = some setting.path := by
  cases setting <;> rfl

/-- No two settings have the same key. -/
theorem key_injective {setting other : Setting} (same : setting.key = other.key) :
    setting = other := by
  have samePath := congrArg KeyPath.parse? same
  rw [parse?_key, parse?_key, Option.some.injEq] at samePath
  exact Setting.path_injective samePath

/-- What stands for a value set by hand. -/
def handEntry (setting : Setting) (value : setting.Kind) : KeyPath × Value :=
  (setting.path, .byHand (setting.scalar value))

theorem handEntry_injective {value other : setting.Kind}
    (same : handEntry setting value = handEntry setting other) : value = other := by
  cases setting <;> cases same <;> rfl

/-- Of the values set by hand the last one of a setting is kept. -/
def Keeps (overrides : List (KeyPath × Value)) (setting : Setting)
    (values : List setting.Kind) : Prop :=
  overrides.filter (·.1 = setting.path) = values.getLast?.toList.map (handEntry setting)

/-- A value that is set again takes the place of the former one. -/
theorem Keeps.put {overrides : List (KeyPath × Value)} {values : List setting.Kind}
    (keeps : Keeps overrides setting values) (value : setting.Kind) :
    Keeps (Loader.putOverride setting.path (.byHand (setting.scalar value)) overrides) setting
      (values ++ [value]) := by
  have short : (overrides.filter (·.1 = setting.path)).length ≤ 1 := by
    rw [keeps, List.length_map]
    cases values.getLast? <;> simp
  clear keeps
  rw [Keeps, List.getLast?_concat]
  induction overrides with
  | nil => simp [Loader.putOverride, handEntry]
  | cons entry rest ih =>
    obtain ⟨path, old⟩ := entry
    by_cases same : path = setting.path
    · subst same
      have alone : rest.filter (·.1 = setting.path) = [] := by simpa using short
      simp [Loader.putOverride, alone, handEntry]
    · rw [List.filter_cons_of_neg (by simpa using same)] at short
      rw [Loader.putOverride, if_neg same, List.filter_cons_of_neg (by simpa using same)]
      exact ih short

theorem filter_putOverride_of_ne {path other : KeyPath} (distinct : other ≠ path) (value : Value)
    (overrides : List (KeyPath × Value)) :
    (Loader.putOverride other value overrides).filter (·.1 = path) =
      overrides.filter (·.1 = path) := by
  induction overrides with
  | nil => simp [Loader.putOverride, distinct]
  | cons entry rest ih =>
    obtain ⟨first, old⟩ := entry
    rw [Loader.putOverride]
    split
    · next replaced => simp [replaced, distinct]
    · rw [List.filter_cons, ih, List.filter_cons]

theorem Keeps.put_of_ne {overrides : List (KeyPath × Value)} {values : List setting.Kind}
    (keeps : Keeps overrides setting values) {path : KeyPath} (distinct : path ≠ setting.path)
    (value : Value) : Keeps (Loader.putOverride path value overrides) setting values :=
  (filter_putOverride_of_ne distinct value overrides).trans keeps

/-- Values set by hand over a tree. -/
theorem Carries.setAll {overrides : List (KeyPath × Value)} {values : List setting.Kind}
    (carries : Carries root setting value)
    (typed : ∀ entry ∈ overrides, ∃ (other : Setting) (new : other.Kind),
      entry = handEntry other new)
    (kept : overrides.filter (·.1 = setting.path) = values.map (handEntry setting)) :
    Carries (overrides.foldl (fun root entry => entry.1.set root entry.2) root) setting
      (values.getLastD value) := by
  induction overrides generalizing root value values with
  | nil =>
    have nothing : values = [] := List.map_eq_nil_iff.mp kept.symm
    rw [nothing]
    exact carries
  | cons entry rest ih =>
    rw [List.forall_mem_cons] at typed
    obtain ⟨⟨other, new, rfl⟩, typedRest⟩ := typed
    by_cases same : other = setting
    · subst same
      rw [List.filter_cons_of_pos (by simp [handEntry])] at kept
      cases values with
      | nil => cases kept
      | cons first later =>
        obtain ⟨sameEntry, keptRest⟩ := List.cons.inj kept
        rw [handEntry_injective sameEntry, List.getLastD_cons]
        exact ih (carries.setByHand_self first) typedRest keptRest
    · have apart : ¬decide ((handEntry other new).1 = setting.path) = true :=
        fun equal => same (Setting.path_injective (of_decide_eq_true equal))
      rw [List.filter_cons, if_neg apart] at kept
      exact ih (carries.setByHand_of_ne same new) typedRest kept

/-! ## Steps -/

/-- What a loader has after steps: their layers, and of the values set by hand the
last one of each setting. -/
structure Loaded (start loader : Loader) (steps : List LoadStep) : Prop where
  layers : loader.layers = layersAfter start steps
  typed : ∀ entry ∈ loader.overrides, ∃ (setting : Setting) (value : setting.Kind),
    entry = handEntry setting value
  keeps : ∀ setting : Setting, Keeps loader.overrides setting (steps.filterMap setting.setBy?)

theorem mem_putOverride {path : KeyPath} {value : Value} {entry : KeyPath × Value}
    {overrides : List (KeyPath × Value)}
    (inside : entry ∈ Loader.putOverride path value overrides) :
    entry = (path, value) ∨ entry ∈ overrides := by
  induction overrides with
  | nil => exact .inl (List.mem_singleton.mp inside)
  | cons first rest ih =>
    rw [Loader.putOverride] at inside
    split at inside
    · rcases List.mem_cons.mp inside with rfl | later
      · exact .inl rfl
      · exact .inr (List.mem_cons_of_mem _ later)
    · rcases List.mem_cons.mp inside with rfl | later
      · exact .inr List.mem_cons_self
      · exact (ih later).imp_right (List.mem_cons_of_mem _)

theorem Setting.setBy?_of_layer? {step : LoadStep} (adds : step.layer? = some layer)
    (setting : Setting) : setting.setBy? step = none := by
  cases step with
  | override key value => cases adds
  | _ => rfl

/-- A step that adds a file adds its layer behind the others. -/
theorem Loaded.addLayer {step : LoadStep} (loaded : Loaded start loader steps)
    (adds : step.layer? = some layer) :
    Loaded start { loader with layers := loader.layers ++ [layer] } (steps ++ [step]) where
  layers := by
    simp only [layersAfter, List.filterMap_append, loaded.layers, List.append_assoc]
    simp [adds]
  typed := loaded.typed
  keeps := fun setting => by
    simpa [setting.setBy?_of_layer? adds] using loaded.keeps setting

/-- A step that sets a value by hand leaves the layers as they are. -/
theorem Loaded.setByHand (loaded : Loaded start loader steps) (setting : Setting)
    (value : setting.Kind) :
    Loaded start
      { loader with
        overrides :=
          Loader.putOverride setting.path (.byHand (setting.scalar value)) loader.overrides }
      (steps ++ [.override setting.key (setting.scalar value)]) where
  layers := by simp [loaded.layers, layersAfter, LoadStep.layer?]
  typed := fun entry inside => by
    rcases mem_putOverride inside with rfl | before
    · exact ⟨setting, value, rfl⟩
    · exact loaded.typed entry before
  keeps := fun other => by
    rw [List.filterMap_append]
    by_cases same : setting = other
    · subst same
      have sets : setting.setBy? (.override setting.key (setting.scalar value)) = some value := by
        cases setting <;> rfl
      rw [List.filterMap_cons_some sets, List.filterMap_nil]
      exact (loaded.keeps setting).put value
    · have nothing : other.setBy? (.override setting.key (setting.scalar value)) = none :=
        if_neg fun sameKey => same (key_injective sameKey)
      rw [List.filterMap_cons_none nothing, List.filterMap_nil, List.append_nil]
      exact (loaded.keeps other).put_of_ne (fun equal => same (Setting.path_injective equal)) _

/-- One more step. -/
theorem Loaded.apply {step : LoadStep} (loaded : Loaded start loader steps) (typed : step.Typed) :
    ∃ next, step.apply loader = .ok next ∧ Loaded start next (steps ++ [step]) := by
  cases step with
  | file path => exact ⟨_, rfl, loaded.addLayer rfl⟩
  | optionalFile path => exact ⟨_, rfl, loaded.addLayer rfl⟩
  | override key value =>
    obtain ⟨setting, value, rfl, rfl⟩ := typed key value rfl
    refine ⟨_, ?_, loaded.setByHand setting value⟩
    rw [LoadStep.apply, Loader.withOverride, parse?_key]

/-- Steps that set the settings to values of their types make a loader. -/
theorem exists_loaded (noneSet : start.overrides = []) (typed : ∀ step ∈ steps, step.Typed) :
    ∃ loader, steps.foldlM LoadStep.apply start = .ok loader ∧ Loaded start loader steps := by
  induction steps using List.reverseRecOn with
  | nil =>
    refine ⟨start, rfl, ⟨(List.append_nil _).symm, ?_, ?_⟩⟩
    · rw [noneSet]
      exact List.forall_mem_nil _
    · intro setting
      rw [noneSet]
      exact rfl
  | append_singleton steps step ih =>
    obtain ⟨loader, made, loaded⟩ :=
      ih fun step inside => typed step (List.mem_append_left _ inside)
    obtain ⟨next, applied, loadedNext⟩ := loaded.apply (typed step (by simp))
    refine ⟨next, ?_, loadedNext⟩
    rw [List.foldlM_append, made]
    exact (bind_pure _).trans applied

/-! ## The settings -/

/-- Values set by hand come over the layers in any order, as there is one for each
setting at most. -/
theorem Loaded.carries (loaded : Loaded start loader steps) (carries : Carries root setting value)
    (machine : Machine) :
    Carries ((machine.walk loader.overrides).foldl (fun root entry => entry.1.set root entry.2)
      root) setting ((steps.filterMap setting.setBy?).getLastD value) := by
  have keeps := loaded.keeps setting
  generalize steps.filterMap setting.setBy? = values at keeps ⊢
  have once : (loader.overrides.filter (·.1 = setting.path)).length ≤ 1 := by
    rw [keeps, List.length_map]
    cases values.getLast? <;> simp
  have setAll := carries.setAll
    (fun entry inside => loaded.typed entry ((machine.walk_perm _).mem_iff.mp inside))
    ((machine.filter_walk once).trans keeps)
  rw [List.getLastD_eq_getLast?]
  cases last : values.getLast? <;> simpa [last] using setAll

/-- Over the layers come the values set by hand, and then all settings are read. -/
theorem Loaded.buildOn {settings : Settings} (loaded : Loaded start loader steps)
    (applied : (layersAfter start steps).foldlM (applyLayer machine files) defaults = .ok root)
    (carries : ∀ setting : Setting, Carries root setting
      (((layersAfter start steps).flatMap (setting.givenBy files)).getLastD setting.default))
    (same : ∀ setting : Setting, setting.get settings = setting.layered start steps files) :
    loader.buildOn machine files = .ok settings := by
  have fits : ∀ entry ∈ machine.walk loader.overrides, entry.1.HasRoom machine.room := by
    intro entry inside
    obtain ⟨setting, value, rfl⟩ := loaded.typed entry ((machine.walk_perm _).mem_iff.mp inside)
    exact setting.path_hasRoom machine.room
  have byHand := foldlM_setWithin fits Prod.snd root
  have tree : loader.tree machine files =
      .ok ((machine.walk loader.overrides).foldl (fun root entry => entry.1.set root entry.2)
        root) := by
    rw [Loader.tree, loaded.layers, applied]
    exact byHand
  rw [Loader.buildOn, tree]
  refine ofValue_of_carries fun setting => ?_
  rw [same]
  exact loaded.carries (carries setting) machine

/-- What comes out of the steps does not depend on the machine, as long as it has the
room. -/
theorem buildAfter_eq_layers (noneSet : start.overrides = [])
    (typed : ∀ step ∈ steps, step.Typed)
    (fits : ∀ layer ∈ layersAfter start steps, Fits machine.room files layer.path) :
    start.buildAfter machine steps files = layeredSettings start steps files := by
  obtain ⟨loader, made, loaded⟩ := exists_loaded noneSet typed
  have after : start.buildAfter machine steps files = loader.buildOn machine files := by
    rw [Loader.buildAfter, made]
    rfl
  rw [after, layeredSettings]
  cases missing : (layersAfter start steps).find? (Layer.missing files) with
  | some layer =>
    have failed := foldlM_applyLayer_of_missing fits missing defaults
    rw [Loader.buildOn, Loader.tree, loaded.layers, failed]
    rfl
  | none =>
    have present : ∀ layer ∈ layersAfter start steps, layer.missing files = false := by
      simpa using missing
    obtain ⟨root, applied, gives⟩ := foldlM_applyLayer_of_fits fits present defaults
    refine loaded.buildOn applied (fun setting => gives setting _ (carries_defaults setting)) ?_
    intro setting
    cases setting <;> rfl

/-! ## Steps with one file -/

variable {path text : String} {fields : List (String × Toml.Value)}

/-- A file that is a document fits when the document suits the settings. -/
theorem fits_oneFile {room : Nat} (isName : IsFileName path)
    (read : Toml.read? text = some (.table fields)) (suits : Suits room fields) :
    Fits room (oneFile path text) path := by
  intro name bytes found
  rw [findFile?_oneFile_self isName] at found
  cases found
  exact ⟨text, fields, textOfBytes_toUTF8 text, read, suits⟩

/-- A file gives a setting what its document gives it. -/
theorem Setting.givenBy_oneFile {required : Bool} (isName : IsFileName path)
    (read : Toml.read? text = some (.table fields)) (setting : Setting) :
    setting.givenBy (oneFile path text) ⟨path, required⟩ = (setting.given? fields).getD [] :=
  setting.givenBy_of_read (findFile?_oneFile_self isName text) (textOfBytes_toUTF8 text)
    read

/-- A key for which there is no room ends the loading, whatever stands behind it. -/
theorem applyDocument_eq_noRoom {key : String} {value : Toml.Value}
    (noRoom : (topPath key).all (Step.hasRoom Machine.usual.room) = false) {name : String}
    {root : Value} :
    applyDocument .usual name root ((key, value) :: fields) = .error .noRoom := by
  have first : (topPath key).setWithin Machine.usual.room root
      (Value.ofToml .usual (some name) value) = .error .noRoom := by
    rw [KeyPath.setWithin, noRoom]
    rfl
  have inOrder : Machine.usual.walk ((key, value) :: fields) = (key, value) :: fields := rfl
  rw [applyDocument, inOrder, List.foldlM_cons]
  simp only [first]
  rfl

/-- A file of a document over the defaults. -/
theorem buildAfter_oneFile (isName : IsFileName path)
    (read : Toml.read? text = some (.table fields)) :
    Loader.new.buildAfter .usual [.file path] (oneFile path text) =
      applyDocument .usual (tidyPath path) defaults fields >>= ofValue := by
  have layered : applyLayer .usual (oneFile path text) defaults ⟨path, true⟩ =
      applyDocument .usual (tidyPath path) defaults fields := by
    simp only [applyLayer, layerText, findFile?_oneFile_self isName, textOfBytes_toUTF8,
      read]
  have made : [LoadStep.file path].foldlM LoadStep.apply Loader.new =
      Except.ok ⟨[⟨path, true⟩], []⟩ := rfl
  rw [Loader.buildAfter, made]
  change (⟨[⟨path, true⟩], []⟩ : Loader).buildOn .usual (oneFile path text) = _
  rw [Loader.buildOn, Loader.tree, List.foldlM_cons, layered]
  cases applyDocument .usual (tidyPath path) defaults fields <;> rfl

/-- A file of a document for whose paths there is room. -/
theorem buildAfter_oneFile_of_fits (isName : IsFileName path)
    (read : Toml.read? text = some (.table fields))
    (fits : ∀ entry ∈ fields, (topPath entry.1).HasRoom Machine.usual.room) :
    Loader.new.buildAfter .usual [.file path] (oneFile path text) =
      ofValue (setFields .usual (tidyPath path) defaults fields) := by
  rw [buildAfter_oneFile isName read, applyDocument_eq_ok fits]
  rfl

/-! ## Changing the order -/

/-- Two steps whose order does not count: one adds a file and one sets a value by
hand, or they set different keys. -/
inductive Exchangeable : LoadStep → LoadStep → Prop
  | fileFirst {step : LoadStep} {layer : Layer} {key : String} {value : Scalar} :
    step.layer? = some layer → Exchangeable step (.override key value)
  | fileSecond {step : LoadStep} {layer : Layer} {key : String} {value : Scalar} :
    step.layer? = some layer → Exchangeable (.override key value) step
  | keys {key other : String} {value new : Scalar} :
    key ≠ other → Exchangeable (.override key value) (.override other new)

/-- Two neighbours of which one counts at most may change places. -/
theorem filterMap_exchange {α β : Type} {choose : α → Option β} {first second : α}
    (oneOnly : choose first = none ∨ choose second = none) (before after : List α) :
    (before ++ second :: first :: after).filterMap choose =
      (before ++ first :: second :: after).filterMap choose := by
  rw [List.filterMap_append, List.filterMap_append]
  rcases oneOnly with nothing | nothing <;> simp [List.filterMap_cons, nothing]

theorem Exchangeable.layer? {first second : LoadStep} (exchangeable : Exchangeable first second) :
    first.layer? = none ∨ second.layer? = none := by
  cases exchangeable with
  | fileFirst => exact .inr rfl
  | fileSecond => exact .inl rfl
  | keys => exact .inl rfl

theorem Exchangeable.setBy? {first second : LoadStep} (exchangeable : Exchangeable first second)
    (setting : Setting) : setting.setBy? first = none ∨ setting.setBy? second = none := by
  cases exchangeable with
  | fileFirst adds => exact .inl (setting.setBy?_of_layer? adds)
  | fileSecond adds => exact .inr (setting.setBy?_of_layer? adds)
  | @keys key other value new distinct =>
    by_cases same : key = setting.key
    · exact .inr (if_neg fun equal => distinct (same.trans equal.symm))
    · exact .inl (if_neg same)

/-- A loader starts without a file that has to be there. -/
theorem file_mem_of_required (starts : start = .new ∨ start = .discover)
    (inside : layer ∈ layersAfter start steps) (required : layer.required = true) :
    .file layer.path ∈ steps := by
  rcases List.mem_append.mp inside with before | added
  · rcases starts with rfl | rfl
    · cases before
    · cases List.mem_singleton.mp before
      cases required
  · obtain ⟨step, inSteps, adds⟩ := List.mem_filterMap.mp added
    cases step with
    | file path =>
      cases adds
      exact inSteps
    | optionalFile path =>
      cases adds
      cases required
    | override key value => cases adds

theorem layer_mem_of_file {path : String} (start : Loader) (inside : .file path ∈ steps) :
    ⟨path, true⟩ ∈ layersAfter start steps :=
  List.mem_append_right _ (List.mem_filterMap.mpr ⟨_, inside, rfl⟩)

/-- A file that has to be there and is missing is the error. -/
theorem layeredSettings_of_missing (starts : start = .new ∨ start = .discover)
    (missing : ∃ path, .file path ∈ steps ∧ findFile? files path = none) :
    ∃ path, .file path ∈ steps ∧ findFile? files path = none ∧
      layeredSettings start steps files = .error (.fileMissing path) := by
  obtain ⟨path, inside, absent⟩ := missing
  have someMissing : ((layersAfter start steps).find? (Layer.missing files)).isSome := by
    rw [List.find?_isSome]
    exact ⟨_, layer_mem_of_file start inside, by simp [Layer.missing, absent]⟩
  obtain ⟨layer, found⟩ := Option.isSome_iff_exists.mp someMissing
  have isMissing := List.find?_some found
  rw [Layer.missing, Bool.and_eq_true, Option.isNone_iff_eq_none] at isMissing
  refine ⟨layer.path, file_mem_of_required starts (List.mem_of_find?_eq_some found) isMissing.1,
    isMissing.2, ?_⟩
  rw [layeredSettings, found]

/-- When all files are there that have to be, each setting has its value. -/
theorem layeredSettings_of_present (starts : start = .new ∨ start = .discover)
    (present : ∀ path, .file path ∈ steps → findFile? files path ≠ none) :
    layeredSettings start steps files =
      .ok ⟨Setting.layered .commentMark start steps files,
        Setting.layered .format start steps files,
        Setting.layered .shape start steps files⟩ := by
  have noneMissing : (layersAfter start steps).find? (Layer.missing files) = none := by
    rw [List.find?_eq_none]
    intro layer inside isMissing
    rw [Layer.missing, Bool.and_eq_true, Option.isNone_iff_eq_none] at isMissing
    exact present _ (file_mem_of_required starts inside isMissing.1) isMissing.2
  rw [layeredSettings, noneMissing]

/-- The layers stay the same when steps are exchanged. -/
theorem Exchangeable.layersAfter_eq {first second : LoadStep}
    (exchangeable : Exchangeable first second) (start : Loader) (before after : List LoadStep) :
    layersAfter start (before ++ second :: first :: after) =
      layersAfter start (before ++ first :: second :: after) :=
  congrArg (start.layers ++ ·) (filterMap_exchange exchangeable.layer? before after)

/-- What comes out stays the same when steps are exchanged. -/
theorem Exchangeable.layeredSettings_eq {first second : LoadStep}
    (exchangeable : Exchangeable first second) (start : Loader) (before after : List LoadStep)
    (files : Files) :
    layeredSettings start (before ++ second :: first :: after) files =
      layeredSettings start (before ++ first :: second :: after) files := by
  have sameLayers := exchangeable.layersAfter_eq start before after
  have sameSettings (setting : Setting) :
      setting.layered start (before ++ second :: first :: after) files =
        setting.layered start (before ++ first :: second :: after) files := by
    rw [Setting.layered, Setting.layered, sameLayers,
      filterMap_exchange (exchangeable.setBy? setting)]
  simp only [layeredSettings, sameLayers, sameSettings]

/-- When a file that has to be there is missing, there are no settings. Otherwise each
setting is the last value set by hand, or else the value of the last file that gives it
one, or else the default. A file and a value set by hand may change places, and so may
values of different settings, even when the entries of tables then come in another
order. -/
theorem buildAfter_eq (starts : start = .new ∨ start = .discover)
    (typed : ∀ step ∈ steps, step.Typed)
    (fits : ∀ layer ∈ layersAfter start steps, Fits machine.room files layer.path) :
    ((∃ path, .file path ∈ steps ∧ findFile? files path = none) →
      ∃ path, .file path ∈ steps ∧ findFile? files path = none ∧
        start.buildAfter machine steps files = .error (.fileMissing path)) ∧
    ((∀ path, .file path ∈ steps → findFile? files path ≠ none) →
      start.buildAfter machine steps files =
        .ok ⟨Setting.layered .commentMark start steps files,
          Setting.layered .format start steps files,
          Setting.layered .shape start steps files⟩) ∧
    ∀ (other : Machine) (before after : List LoadStep) (first second : LoadStep),
      machine.room ≤ other.room → steps = before ++ first :: second :: after →
      Exchangeable first second →
      start.buildAfter other (before ++ second :: first :: after) files =
        start.buildAfter machine steps files := by
  have noneSet : start.overrides = [] := by rcases starts with rfl | rfl <;> rfl
  rw [buildAfter_eq_layers noneSet typed fits]
  refine ⟨layeredSettings_of_missing starts, layeredSettings_of_present starts, ?_⟩
  rintro other before after first second enough rfl exchangeable
  have sameSteps : ∀ step ∈ before ++ second :: first :: after, step.Typed :=
    fun step inside => typed step (((List.Perm.swap _ _ _).append_left before).mem_iff.mp inside)
  have fitsOther : ∀ layer ∈ layersAfter start (before ++ second :: first :: after),
      Fits other.room files layer.path := by
    rw [exchangeable.layersAfter_eq]
    exact fun layer inside => (fits layer inside).mono enough
  rw [buildAfter_eq_layers noneSet sameSteps fitsOther, exchangeable.layeredSettings_eq]

/-- A format set by hand, before and after a file that has a format too. -/
theorem buildAfter_eq_oneFile :
    Loader.new.buildAfter .usual [.override "output.format" (.text "text"), .file "c.toml"]
        (oneFile "c.toml" "[Input]\ncomment_prefix = \"%\"\n[output]\nformat = \"yaml\"\n") =
      .ok ⟨"%", "text", false⟩ ∧
    Loader.new.buildAfter .usual [.file "c.toml", .override "output.format" (.text "text")]
        (oneFile "c.toml" "[Input]\ncomment_prefix = \"%\"\n[output]\nformat = \"yaml\"\n") =
      .ok ⟨"%", "text", false⟩ := by
  have isName : IsFileName "c.toml" := ⟨by decide, by decide, by decide⟩
  obtain ⟨fields, read, mark, format, shape, room⟩ : ∃ fields,
      Toml.read? "[Input]\ncomment_prefix = \"%\"\n[output]\nformat = \"yaml\"\n" =
        some (.table fields) ∧
      Setting.given? .commentMark fields = some ["%"] ∧
      Setting.given? .format fields = some ["yaml"] ∧ Setting.given? .shape fields = some [] ∧
      ∀ entry ∈ fields, (topPath entry.1).HasRoom Machine.usual.room :=
    ⟨[("Input", .table [("comment_prefix", .string "%")]),
      ("output", .table [("format", .string "yaml")])],
      by cbv, by decide +kernel, by decide +kernel, by decide +kernel,
      List.forall_mem_cons.mpr ⟨List.all_eq_true.mp (by decide +kernel),
        List.forall_mem_singleton.mpr (List.all_eq_true.mp (by decide +kernel))⟩⟩
  generalize "[Input]\ncomment_prefix = \"%\"\n[output]\nformat = \"yaml\"\n" = text at read ⊢
  have suits : Suits Machine.usual.room fields := by
    refine ⟨fun setting => ?_, room⟩
    cases setting with
    | commentMark => exact ⟨_, mark, by decide⟩
    | format => exact ⟨_, format, by decide⟩
    | shape => exact ⟨_, shape, by decide⟩
  have typed : ∀ step ∈ [.override "output.format" (.text "text"), .file "c.toml"],
      LoadStep.Typed step := by
    simp only [List.forall_mem_cons]
    refine ⟨?_, ?_, List.forall_mem_nil _⟩ <;> intro key value same <;> cases same
    exact ⟨.format, "text", rfl, rfl⟩
  have fits : ∀ layer ∈ [Layer.mk "c.toml" true],
      Fits Machine.usual.room (oneFile "c.toml" text) layer.path :=
    List.forall_mem_singleton.mpr (fits_oneFile isName read suits)
  obtain ⟨-, built, exchange⟩ := buildAfter_eq (.inl rfl) typed fits
  have result := built fun path inside => by
    have same : path = "c.toml" := by simpa using inside
    rw [same, findFile?_oneFile_self isName]
    exact Option.some_ne_none _
  have layered (setting : Setting) (default : setting.Kind) :
      ([Layer.mk "c.toml" true].flatMap (setting.givenBy (oneFile "c.toml" text))).getLastD
        default = ((setting.given? fields).getD []).getLastD default := by
    rw [List.flatMap_singleton, setting.givenBy_oneFile isName read]
  have markIs : Setting.layered .commentMark .new
      [.override "output.format" (.text "text"), .file "c.toml"] (oneFile "c.toml" text) = "%" :=
    (layered .commentMark "#").trans (by rw [mark]; rfl)
  have shapeIs : Setting.layered .shape .new
      [.override "output.format" (.text "text"), .file "c.toml"] (oneFile "c.toml" text) = false :=
    (layered .shape false).trans (by rw [shape]; rfl)
  rw [markIs, shapeIs] at result
  exact ⟨result, (exchange .usual [] _ _ _ (Nat.le_refl _) rfl (.fileSecond rfl)).trans result⟩

/-- A section may not consist of the key that makes a table a date, nor may a key at
the top be a path to an item of a section: both take the place of the section. A key at
the top may not ask for a list that there is no room for either. -/
theorem buildAfter_section_replaced :
    (Toml.readLines 64 ⟨[], []⟩ "[input]\n\"$__toml_private_datetime\" = \"1979-05-27\"\n".toList =
        some [("input", .table .explicit
          [("$__toml_private_datetime", .leaf (.string "1979-05-27"))])] ∧
      Loader.new.buildAfter .usual [.file "c.toml"]
          (oneFile "c.toml" "[input]\n\"$__toml_private_datetime\" = \"1979-05-27\"\n") =
        .error (.wrongSection "string \"1979-05-27\"" "InputConfig")) ∧
    (Toml.readLines 64 ⟨[], []⟩ "\"output[0]\" = \"x\"\n".toList =
        some [("output[0]", .leaf (.string "x"))] ∧
      Loader.new.buildAfter .usual [.file "c.toml"] (oneFile "c.toml" "\"output[0]\" = \"x\"\n") =
        .error (.shortSection 1 "OutputConfig" 2)) ∧
    Toml.readLines 64 ⟨[], []⟩ "\"x[9223372036854775807]\" = \"v\"\n".toList =
        some [("x[9223372036854775807]", .leaf (.string "v"))] ∧
      Loader.new.buildAfter .usual [.file "c.toml"]
          (oneFile "c.toml" "\"x[9223372036854775807]\" = \"v\"\n") =
        .error .noRoom := by
  have isName : IsFileName "c.toml" := ⟨by decide, by decide, by decide⟩
  refine ⟨⟨by cbv, ?_⟩, ⟨by cbv, ?_⟩, by cbv, ?_⟩
  · have read : Toml.read? "[input]\n\"$__toml_private_datetime\" = \"1979-05-27\"\n" =
        some (.table [("input", .datetime "1979-05-27")]) := by cbv
    have top : topPath "input" = [.field "input"] := by decide +kernel
    have folded : foldName "input" = "input" := by decide +kernel
    have shown : (Scalar.text "1979-05-27").describe = "string \"1979-05-27\"" := by decide +kernel
    have room : (topPath "input").HasRoom Machine.usual.room :=
      List.all_eq_true.mp (by decide +kernel)
    rw [buildAfter_oneFile_of_fits isName read (List.forall_mem_singleton.mpr room), setFields]
    simp only [List.foldl_cons, List.foldl_nil, top, KeyPath.set, folded]
    rw [← shown]
    rfl
  · have read : Toml.read? "\"output[0]\" = \"x\"\n" =
        some (.table [("output[0]", .string "x")]) := by cbv
    have top : topPath "output[0]" = [.field "output", .item 0] := by decide +kernel
    have folded : foldName "output" = "output" := by decide +kernel
    have room : (topPath "output[0]").HasRoom Machine.usual.room :=
      List.all_eq_true.mp (by decide +kernel)
    rw [buildAfter_oneFile_of_fits isName read (List.forall_mem_singleton.mpr room), setFields]
    simp only [List.foldl_cons, List.foldl_nil, top, KeyPath.set, folded]
    rfl
  · have read : Toml.read? "\"x[9223372036854775807]\" = \"v\"\n" =
        some (.table [("x[9223372036854775807]", .string "v")]) := by cbv
    have noRoom : (topPath "x[9223372036854775807]").all (Step.hasRoom Machine.usual.room) =
        false := by decide +kernel
    rw [buildAfter_oneFile isName read, applyDocument_eq_noRoom noRoom]
    rfl

end CallSig.Settings
