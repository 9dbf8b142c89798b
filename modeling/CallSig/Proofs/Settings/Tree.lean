import CallSig.Proofs.Settings.Merging

/-!
# Settings as a tree

Settings are read from a tree of values. `toValue` is the tree of given settings
as it looks when all of them are set by hand: reading it gives the settings back,
and setting the format or the shape in it is setting them in the settings. The
defaults are such a tree.

`build_of_noFile` takes a loader apart that finds no file: only what is set by hand
comes over the defaults.
-/

namespace CallSig.Settings

/-- The settings as a tree of values that are set by hand. -/
def toValue (settings : Settings) : Value :=
  .table none
    [("input", .table none [("comment_prefix", .byHand (.text settings.commentMark))]),
      ("output", .table none
        [("format", .byHand (.text settings.format)), ("shape", .byHand (.bool settings.shape))])]

/-- The defaults are the tree of these settings. -/
theorem defaults_eq : defaults = toValue ⟨"#", "json", false⟩ := rfl

/-- The settings are read from their tree. -/
theorem ofValue_toValue (settings : Settings) : ofValue settings.toValue = .ok settings := rfl

/-- Setting the format in the tree is setting it in the settings. -/
theorem set_format_toValue (settings : Settings) (format : String) :
    KeyPath.set [.field "output", .field "format"] settings.toValue (.byHand (.text format)) =
      { settings with format := format }.toValue := by
  have output : foldName "output" = "output" := by decide +kernel
  have name : foldName "format" = "format" := by decide +kernel
  simp only [KeyPath.set, output, name]
  rfl

/-- Setting the shape in the tree is setting it in the settings. -/
theorem set_shape_toValue (settings : Settings) (shape : Bool) :
    KeyPath.set [.field "output", .field "shape"] settings.toValue (.byHand (.bool shape)) =
      { settings with shape := shape }.toValue := by
  have output : foldName "output" = "output" := by decide +kernel
  have name : foldName "shape" = "shape" := by decide +kernel
  simp only [KeyPath.set, output, name]
  rfl

/-! ## Loading without files -/

/-- What is set by hand, over the settings that are always there. -/
theorem build_of_noFile {files : Files} (noFile : findFile? files localFile = none)
    {overrides : List (KeyPath × Value)}
    (fits : ∀ entry ∈ overrides, entry.1.HasRoom Machine.usual.room) :
    Loader.build ⟨Loader.discover.layers, overrides⟩ files =
      ofValue (overrides.foldl (fun root entry => entry.1.set root entry.2) defaults) := by
  have layered : applyLayer .usual files defaults ⟨localFile, false⟩ = .ok defaults := by
    simp [applyLayer, layerText, noFile]
  have layers : Loader.discover.layers.foldlM (applyLayer .usual files) defaults =
      .ok defaults := by
    rw [Loader.discover, Loader.withOptionalFile, Loader.new, List.nil_append, List.foldlM_cons,
      layered]
    rfl
  have byHand := foldlM_setWithin fits Prod.snd defaults
  have tree : Loader.tree .usual ⟨Loader.discover.layers, overrides⟩ files =
      .ok (overrides.foldl (fun root entry => entry.1.set root entry.2) defaults) := by
    rw [Loader.tree, layers]
    exact byHand
  rw [Loader.build, Loader.buildOn, tree]
  rfl

end CallSig.Settings
