import CallSig.Command.Line
import CallSig.Failure
import CallSig.Format.Registry
import CallSig.Log.Filter
import CallSig.Settings.Loader

/-!
# A run of the command

A run reads signatures from the command line, or else from a file, or else from
standard input, and prints the reports on them in the wished format. It is a
function from everything that it may look at, its `World`, to everything that it
leaves behind, its `Outcome`.

Of a file, and of standard input, every line is a signature, apart from blank
lines and comments.

Settings are loaded from what the options say about them and from the files;
`runWith` is a run with any way to do that, and `run` is the program.
-/

namespace CallSig.Command

/-- What a run may look at. -/
structure World where
  input : ByteArray
  files : Files
  /-- The filter of log records, if one is set. -/
  logFilter : Option String

/-- How a run ends. -/
inductive Ending where
  | done
  | failed (failure : Failure)
  | misused

/-- What a run leaves behind. -/
structure Outcome where
  output : String
  log : List Log.Record
  ending : Ending

/-- The exit code of a run; one that is broken off has its own. -/
def Ending.code : Ending → UInt32
  | .done => 0
  | .failed (.settings .noRoom) => 101
  | .failed _ => 1
  | .misused => 2

/-! ## Settings and signatures -/

/-- The loader for what the options say: the local file, the file that is named, then
what they set themselves. -/
def loaderFor (config format : Option String) (shape : Bool) :
    Except Settings.Error Settings.Loader := do
  let loader := Settings.Loader.discover
  let loader := match config with
    | some path => loader.withFile path
    | none => loader
  let loader ← match format with
    | some format => loader.withOverride "output.format" (.text format)
    | none => pure loader
  if shape then loader.withOverride "output.shape" (.bool true) else pure loader

/-- A way to load settings: from the file and the format that are named, the flag for
the shape, and the files. -/
abbrev LoadSettings :=
  Option String → Option String → Bool → Files → Except Settings.Error Settings

/-- The settings of the program. -/
def settingsFor : LoadSettings := fun config format shape files => do
  (← loaderFor config format shape).build files

/-- The settings that are loaded for the options. -/
def Options.settings (options : Options) (load : LoadSettings) (files : Files) :
    Except Settings.Error Settings :=
  load options.config options.format options.shape files

/-- Whether a line is a comment. -/
def isComment (mark line : List Char) : Bool :=
  !mark.isEmpty && mark.isPrefixOf line

/-- The signatures in a text, one in each line. -/
def signatureLines (source mark : String) : List String :=
  let lines := (source.splitOn "\n").map fun line => Text.trim line.toList
  (lines.filter fun line => !line.isEmpty && !isComment mark.toList line).map String.ofList

/-- The signatures of a run. -/
def signaturesFor (options : Options) (world : World) (mark : String) :
    Except ReadError (List String) :=
  match options.signatures with
  | [] => do
    let source ← match options.file with
      | some path => world.files.readText path
      | none => textOfBytes world.input
    pure (signatureLines source mark)
  | signatures => .ok signatures

/-! ## Log records -/

/-- The target of records of the command. -/
def commandTarget : String := "pysig"

/-- The target of records of the reader of signatures. -/
def parserTarget : String := "pysig::signature::parser"

/-- The record of an event of reading. -/
def recordOf (event : Parse.Event) : Log.Record :=
  match event with
  | .parsed _ => ⟨.trace, parserTarget, event.message⟩
  | .abandoned _ => ⟨.debug, parserTarget, event.message⟩

/-- Whether a text is no signature at all. -/
def isUnusable (text : String) : Bool :=
  (parseArguments text).isEmpty && (Bracket.matchingClose? text '(' ')').isNone

/-- The records on one signature. -/
def recordsFor (text : String) : List Log.Record :=
  (parseEvents text).map recordOf ++
    if isUnusable text then
      [⟨.warn, commandTarget, "no usable signature in " ++ Text.quoted text⟩]
    else []

/-- All records of a run on these signatures. -/
def recordsOf (signatures : List String) : List Log.Record :=
  ⟨.debug, commandTarget, "parsing " ++ toString signatures.length ++ " signature(s)"⟩ ::
    signatures.flatMap recordsFor

/-! ## The run -/

/-- A text that ends its last line. -/
def endLine (text : String) : String :=
  if text.toList.getLast? == some '\n' then text else text ++ "\n"

/-- The list of formats. -/
def formatList (registry : Registry) : String :=
  "Available output formats:\n\n" ++
    String.join (registry.names.map fun name =>
      match registry.get? name with
      | some formatter => "  " ++ name ++ "\n    " ++ formatter.description ++ "\n\n"
      | none => "")

/-- The output for these signatures. -/
def outputFor (settings : Settings) (signatures : List String) : Except FormatError String :=
  let reports := signatures.map fun text => Report.ofText text settings.shape
  (Registry.withDefaults.serialize reports settings.format).map endLine

/-- The version text. -/
def versionText : String := "pysig 0.1.0\n"

/-- The help text. -/
def helpText : String :=
  "Parse Python-style call signatures into argument lists\n\n" ++
    "Usage: pysig [OPTIONS] [signatures]...\n\n" ++
    "Arguments:\n" ++
    "  [signatures]...  Signature text, e.g. '(a: int = 1, *, b=None)'\n\n" ++
    "Options:\n" ++
    "  -f, --file <file>      Read signatures from a file, one per line\n" ++
    "  -F, --format <format>  Output format (json, json-compact, yaml, text)\n" ++
    "      --shape            Include the calling-convention shape of each signature\n" ++
    "  -c, --config <config>  Path to a TOML configuration file\n" ++
    "      --list-formats     List available output formats\n" ++
    "  -h, --help             Print help\n" ++
    "  -V, --version          Print version\n"

/-- A run that ends before any signature is read. -/
def Outcome.failed (failure : Failure) : Outcome :=
  ⟨"", [], .failed failure⟩

/-- Prints the reports on the signatures of a run. -/
def report (load : LoadSettings) (options : Options) (world : World) : Outcome :=
  match options.settings load world.files with
  | .error error => .failed (.settings error)
  | .ok settings =>
    match signaturesFor options world settings.commentMark with
    | .error error => .failed (.input error)
    | .ok signatures =>
      let log := (recordsOf signatures).filter (Log.Filter.ofSetting world.logFilter).shows
      match outputFor settings signatures with
      | .ok output => ⟨output, log, .done⟩
      | .error error => ⟨"", log, .failed (.format error)⟩

/-- The run of a command line with this way to load settings. -/
def runWith (load : LoadSettings) (words : List String) (world : World) : Outcome :=
  match Request.ofWords words with
  | .misuse => ⟨"", [], .misused⟩
  | .help => ⟨helpText, [], .done⟩
  | .version => ⟨versionText, [], .done⟩
  | .run options =>
    if options.listFormats then ⟨formatList .withDefaults, [], .done⟩
    else report load options world

/-- The run of a command line. -/
def run (words : List String) (world : World) : Outcome :=
  runWith settingsFor words world

end CallSig.Command
