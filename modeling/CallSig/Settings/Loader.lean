import CallSig.Files
import CallSig.Settings.Basic
import CallSig.Settings.KeyPath
import CallSig.Toml.Document

/-!
# Loading settings in layers

Settings come from layers: defaults that are always there, then files, later ones
over earlier ones, then values that are set by hand. Values set by hand win over
all files, in whatever order the two were asked for.

A file is looked for under its name, and then under its name with `.toml` behind
it. One that has to be there and is not is an error; so is any file that is no
TOML document. The keys of a document are read as paths, where that is possible.

The entries of a document, and the values set by hand, are gone through in the order
of the machine. It is not specified, so of several entries that say something about
one setting none can be relied on to win; `Loader.build` takes the last one, as the
usual machine keeps the order of the document.
-/

namespace CallSig.Settings

/-- A file of settings, and whether it has to be there. -/
structure Layer where
  path : String
  required : Bool
  deriving Repr, DecidableEq

/-- The layers over the defaults. -/
structure Loader where
  layers : List Layer
  overrides : List (KeyPath × Value)

/-- The settings that are always there. -/
def defaults : Value :=
  .table none
    [("input", .table none [("comment_prefix", .byHand (.text "#"))]),
      ("output", .table none
        [("format", .byHand (.text "json")), ("shape", .byHand (.bool false))])]

/-- The file in the working directory that is used when it is there. -/
def localFile : String := "pysig.toml"

namespace Loader

/-- The defaults alone. -/
def new : Loader :=
  ⟨[], []⟩

/-- Adds a file that has to be there. -/
def withFile (loader : Loader) (path : String) : Loader :=
  { loader with layers := loader.layers ++ [⟨path, true⟩] }

/-- Adds a file that may be missing. -/
def withOptionalFile (loader : Loader) (path : String) : Loader :=
  { loader with layers := loader.layers ++ [⟨path, false⟩] }

/-- The defaults, and the local file if it is there. -/
def discover : Loader :=
  new.withOptionalFile localFile

/-- The values set by hand, with one more; the last value of a path counts. -/
def putOverride (path : KeyPath) (value : Value) :
    List (KeyPath × Value) → List (KeyPath × Value)
  | [] => [(path, value)]
  | (other, old) :: rest =>
    if other = path then (path, value) :: rest else (other, old) :: putOverride path value rest

/-- Sets a value by hand. -/
def withOverride (loader : Loader) (key : String) (value : Scalar) : Except Error Loader :=
  match KeyPath.parse? key with
  | some path =>
    .ok { loader with overrides := putOverride path (.byHand value) loader.overrides }
  | none => .error .malformedKey

end Loader

/-! ## Reading a layer -/

/-- The name of a file with `.toml` behind it; a path that ends in no name has
none. -/
def fallbackPath? (path : String) : Option String :=
  match (pathParts path).reverse.dropWhile isIdlePart with
  | [] => none
  | last :: before =>
    if last = ".." then none else some ("/".intercalate (before.reverse ++ [last ++ ".toml"]))

/-- The bytes of the file at a path. -/
def fileAt? (files : Files) (path : String) : Option ByteArray :=
  match files path with
  | .file bytes => some bytes
  | _ => none

/-- The file of a layer, and the name by which messages call it. -/
def findFile? (files : Files) (path : String) : Option (String × ByteArray) :=
  match fileAt? files path with
  | some bytes => some (tidyPath path, bytes)
  | none => do
    let other ← fallbackPath? path
    let bytes ← fileAt? files other
    pure (tidyPath other, bytes)

/-- The text of a layer, and the name by which messages call it. -/
def layerText (files : Files) (path : String) : Except Error (String × String) :=
  match findFile? files path with
  | none => .error (.fileMissing path)
  | some (name, bytes) =>
    match textOfBytes bytes with
    | .ok text => .ok (name, text)
    | .error _ => .error .notUtf8

/-- The path of a key at the top of a document. -/
def topPath (key : String) : KeyPath :=
  (KeyPath.parse? key).getD [.field key]

/-- The tree with the fields of a document set. -/
def applyDocument (machine : Machine) (name : String) (root : Value)
    (fields : List (String × Toml.Value)) : Except Error Value :=
  (machine.walk fields).foldlM (fun root (key, value) =>
    (topPath key).setWithin machine.room root (Value.ofToml machine (some name) value)) root

/-- The tree with a layer over it. An optional layer that cannot be read is
nothing; a document that is malformed is always an error. -/
def applyLayer (machine : Machine) (files : Files) (root : Value) (layer : Layer) :
    Except Error Value :=
  match layerText files layer.path with
  | .error error => if layer.required then .error error else .ok root
  | .ok (name, text) =>
    match Toml.read? text with
    | some (.table fields) => applyDocument machine name root fields
    | some (.datetime text) => .error (.rootNoTable text name)
    | _ => .error .malformedFile

/-- The tree of all layers and of the values set by hand. -/
def Loader.tree (machine : Machine) (loader : Loader) (files : Files) : Except Error Value := do
  let layered ← loader.layers.foldlM (applyLayer machine files) defaults
  (machine.walk loader.overrides).foldlM
    (fun root (path, value) => path.setWithin machine.room root value) layered

/-- The settings that come out of all layers on a machine. -/
def Loader.buildOn (machine : Machine) (loader : Loader) (files : Files) :
    Except Error Settings := do
  Settings.ofValue (← loader.tree machine files)

/-- The settings that come out of all layers. -/
def Loader.build (loader : Loader) (files : Files) : Except Error Settings :=
  loader.buildOn .usual files

end CallSig.Settings
