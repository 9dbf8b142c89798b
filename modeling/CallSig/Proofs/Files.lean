import CallSig.Files
import CallSig.Proofs.Text.Lines
import CallSig.Settings.Loader

/-!
# A directory with one file

The plainest tree of files is a working directory in which one file lies. Under the
name of the file stands the file, and under another name nothing (`oneFile_eq`), so the
layer of the name is found and any other layer is missing.
-/

namespace CallSig

/-- The octets of a text are read as the text. -/
theorem textOfBytes_toUTF8 (text : String) : textOfBytes text.toUTF8 = .ok text := by
  have read : String.fromUTF8? text.toUTF8 = some text := dif_pos text.isValidUTF8
  rw [textOfBytes, read]

variable {name path text : String}

/-- The text names something in a directory: it is a path of one part, which leads down. -/
structure IsFileName (name : String) : Prop where
  onePart : '/' ∉ name.toList
  moves : isIdlePart name = false
  down : name ≠ ".."

theorem IsFileName.pathParts_eq (isName : IsFileName name) : pathParts name = [name] := by
  have parts : pathParts name = (name.toList.splitOn '/').map String.ofList :=
    Text.splitOn_singleton name '/'
  rw [parts, List.splitOn_eq_singleton isName.onePart, List.map_singleton, String.ofList_toList]

theorem IsFileName.movingParts_eq (isName : IsFileName name) : movingParts name = [name] := by
  simp [movingParts, isName.pathParts_eq, isName.moves]

/-- Under a name in the working directory of a tree stands what lies there. -/
theorem toFiles_of_name {tree : FileTree} (isName : IsFileName name)
    (directory : tree.entryAt [] = .directory) : tree.toFiles name = tree.entryAt [name] := by
  have named : name ≠ "" := by
    rintro rfl
    exact absurd isName.moves (by decide)
  have follows : tree.toFiles name = tree.follow [] [name] := by
    rw [FileTree.toFiles, isName.pathParts_eq]
    split
    · next parts => exact absurd (List.cons.inj parts).1 named
    · next parts => exact absurd (List.cons.inj parts).1 named
    · rfl
  rw [follows, FileTree.follow, directory]
  simp [isName.moves, isName.down, FileTree.follow]

/-- A directory with one file, which holds a text. -/
def oneFile (name text : String) : Files :=
  (FileTree.ofList [(name, text.toUTF8)]).toFiles

/-- Under a name in it stands the file, or nothing. -/
theorem oneFile_eq (isName : IsFileName name) (isPath : IsFileName path) :
    oneFile name text path = if path = name then .file text.toUTF8 else .missing := by
  have files : FileTree.ofList [(name, text.toUTF8)] = ⟨[([name], text.toUTF8)]⟩ := by
    simp only [FileTree.ofList, List.map_singleton, isName.movingParts_eq]
  rw [oneFile, files, toFiles_of_name isPath rfl]
  by_cases same : path = name
  · simp [FileTree.entryAt, same]
  · have apart : (path == name) = false := beq_eq_false_iff_ne.mpr same
    simp [FileTree.entryAt, List.lookup_cons, same, apart]

/-- The file is found under its name. -/
theorem Settings.findFile?_oneFile_self (isName : IsFileName name) (text : String) :
    findFile? (oneFile name text) name = some (tidyPath name, text.toUTF8) := by
  simp [findFile?, fileAt?, oneFile_eq isName isName]

/-- Nothing is found under other names. -/
theorem Settings.findFile?_oneFile (isName : IsFileName name) {fallback : String}
    (isPath : IsFileName path) (isFallback : IsFileName fallback)
    (candidates : fallbackPath? path = some fallback) (other : path ≠ name)
    (fallbackOther : fallback ≠ name) : findFile? (oneFile name text) path = none := by
  simp [findFile?, fileAt?, oneFile_eq isName isPath, other, candidates,
    oneFile_eq isName isFallback, fallbackOther]

end CallSig
