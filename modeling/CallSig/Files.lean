/-!
# Files and texts in them

A program meets files through `Files`, which says what stands at a path. A
`FileTree` is such a thing given by its files: a directory is there when some
file lies in it. Paths are resolved part by part from the working directory,
where a part that comes after a file finds no directory.
-/

namespace CallSig

/-- What stands at a path. -/
inductive Entry where
  | file (bytes : ByteArray)
  | directory
  | missing
  /-- The path goes on after a file. -/
  | notDirectory

/-- What stands at each path. -/
abbrev Files := String → Entry

/-- Why a text could not be read. -/
inductive ReadError where
  | notFound
  | isDirectory
  | notDirectory
  | notUtf8
  | other (message : String)
  deriving Repr, DecidableEq

def ReadError.message : ReadError → String
  | .notFound => "No such file or directory (os error 2)"
  | .isDirectory => "Is a directory (os error 21)"
  | .notDirectory => "Not a directory (os error 20)"
  | .notUtf8 => "stream did not contain valid UTF-8"
  | .other message => message

/-- The text that bytes write in UTF-8. -/
def textOfBytes (bytes : ByteArray) : Except ReadError String :=
  match String.fromUTF8? bytes with
  | some text => .ok text
  | none => .error .notUtf8

/-- The text of the file at a path. -/
def Files.readText (files : Files) (path : String) : Except ReadError String :=
  match files path with
  | .file bytes => textOfBytes bytes
  | .directory => .error .isDirectory
  | .missing => .error .notFound
  | .notDirectory => .error .notDirectory

/-! ## Paths -/

/-- The parts of a path between its slashes. -/
def pathParts (path : String) : List String :=
  path.splitOn "/"

/-- Whether the part leaves the place where it is. -/
def isIdlePart (part : String) : Bool :=
  part = "" || part = "."

/-- The parts of a path that lead somewhere. -/
def movingParts (path : String) : List String :=
  (pathParts path).filter (!isIdlePart ·)

/-- The path without idle parts. -/
def tidyPath (path : String) : String :=
  "/".intercalate (movingParts path)

/-- Files by their paths from the working directory. -/
structure FileTree where
  files : List (List String × ByteArray)

namespace FileTree

/-- The tree of files with these tidy paths. -/
def ofList (files : List (String × ByteArray)) : FileTree :=
  ⟨files.map fun (path, bytes) => (movingParts path, bytes)⟩

/-- What lies under the working directory at this place. -/
def entryAt (tree : FileTree) (place : List String) : Entry :=
  match tree.files.lookup place with
  | some bytes => .file bytes
  | none =>
    if place.isEmpty || tree.files.any fun (path, _) => place.isPrefixOf path then .directory
    else .missing

/-- Goes on from a place along the parts of a path. Above the working directory
there are directories of which nothing is known. -/
def follow (tree : FileTree) : List String → List String → Entry
  | place, [] => tree.entryAt place
  | place, part :: rest =>
    match tree.entryAt place with
    | .directory =>
      if isIdlePart part then tree.follow place rest
      else if part = ".." then
        match place.reverse with
        | [] => if rest.all fun part => isIdlePart part || part = ".." then .directory else .missing
        | _ :: above => tree.follow above.reverse rest
      else tree.follow (place ++ [part]) rest
    | .file _ => .notDirectory
    | other => other

/-- What stands at a path of the tree. Of the places outside it, only the root
is known to be there. -/
def toFiles (tree : FileTree) : Files := fun path =>
  match pathParts path with
  | [""] => .missing
  | "" :: parts => if parts.all isIdlePart then .directory else .missing
  | parts => tree.follow [] parts

end FileTree

end CallSig
