import CallSig.Command.Run

/-!
# The program

Looks at the world, runs the command and prints what it leaves behind. Of the
files, only those that the command line names, and the local settings, are read.
-/

namespace CallSig.Main

open CallSig.Command

/-- The paths at which a run may look. -/
def pathsFor (words : List String) : List String :=
  match Request.ofWords words with
  | .run options =>
    let settings := Settings.localFile :: options.config.toList
    settings ++ settings.filterMap Settings.fallbackPath? ++ options.file.toList
  | _ => []

/-- What stands at a path. -/
def lookAt (path : String) : IO Entry := do
  try
    pure (.file (← IO.FS.readBinFile path))
  catch error =>
    match error with
    | .noFileOrDirectory .. => pure .missing
    | .inappropriateType .. => pure .directory
    | _ => pure .notDirectory

/-- The files that a run may look at. -/
def gather (words : List String) : IO Files := do
  let found ← (pathsFor words).mapM fun path => do pure (path, ← lookAt path)
  pure fun path => (found.lookup path).getD .missing

/-- Whether a run takes signatures from standard input. -/
def wantsInput (words : List String) : Bool :=
  match Request.ofWords words with
  | .run options => options.signatures.isEmpty && options.file.isNone && !options.listFormats
  | _ => false

end CallSig.Main

/-- Runs the command with the words of the command line. -/
def main (words : List String) : IO UInt32 := do
  let stdin ← IO.getStdin
  let input ← if CallSig.Main.wantsInput words then stdin.readBinToEnd else pure ByteArray.empty
  let outcome := CallSig.Command.run words
    { input := input
      files := ← CallSig.Main.gather words
      logFilter := ← IO.getEnv "RUST_LOG" }
  for record in outcome.log do
    IO.eprintln ("[" ++ record.level.label ++ " " ++ record.target ++ "] " ++ record.shown)
  IO.print outcome.output
  match outcome.ending with
  | .done => pure ()
  | .failed failure => IO.eprintln ("Error: " ++ failure.message)
  | .misused => IO.eprintln "error: invalid command line"
  pure outcome.ending.code
