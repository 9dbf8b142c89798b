/-!
# The command line

The words of a command line are options and signatures, in any order; after `--`
every word is a signature. An option that takes a value has it in the next word,
behind an equals sign, or, in its short form, in the same word. The next word is
no value if it looks like an option. No option may stand twice, and signatures
cannot be given together with a file that holds them.

The options for help and for the version end the reading at once; so does the
first mistake.
-/

namespace CallSig.Command

/-- What a command line asks for. -/
structure Options where
  signatures : List String
  file : Option String
  format : Option String
  config : Option String
  shape : Bool
  listFormats : Bool
  deriving Repr, DecidableEq

/-- The options of an empty command line. -/
def Options.none : Options :=
  ⟨[], .none, .none, .none, false, false⟩

/-- The options that take a value. -/
inductive Valued where
  | file
  | format
  | config
  deriving Repr, DecidableEq

/-- The options that take none. -/
inductive Flag where
  | shape
  | listFormats
  | help
  | version
  deriving Repr, DecidableEq

/-- What an option word may name. -/
inductive Named where
  | valued (key : Valued)
  | flag (flag : Flag)
  deriving Repr, DecidableEq

def longNames : List (String × Named) :=
  [("file", .valued .file), ("format", .valued .format), ("config", .valued .config),
    ("shape", .flag .shape), ("list-formats", .flag .listFormats), ("help", .flag .help),
    ("version", .flag .version)]

def shortNames : List (Char × Named) :=
  [('f', .valued .file), ('F', .valued .format), ('c', .valued .config), ('h', .flag .help),
    ('V', .flag .version)]

/-- What comes out of a command line. -/
inductive Request where
  | run (options : Options)
  | help
  | version
  | misuse
  deriving Repr, DecidableEq

/-- The options with a value, unless it has been given before. -/
def Options.setValue (options : Options) (key : Valued) (value : String) : Option Options :=
  match key with
  | .file => if options.file.isSome then .none else some { options with file := some value }
  | .format => if options.format.isSome then .none else some { options with format := some value }
  | .config => if options.config.isSome then .none else some { options with config := some value }

def Options.addSignature (options : Options) (text : String) : Options :=
  { options with signatures := options.signatures ++ [text] }

/-- What a word means when no value is due. -/
inductive Word where
  | endOfOptions
  | signature (text : String)
  | option (named : Named) (value : Option String)
  | unknown
  deriving Repr, DecidableEq

/-- The value in the same word as a short option; an equals sign in front of it
does not belong to it. -/
def attached : List Char → Option String
  | [] => none
  | '=' :: value => some (String.ofList value)
  | value => some (String.ofList value)

/-- The name and the value of a long option. -/
def longOption (text : List Char) : Word :=
  let name := String.ofList (text.takeWhile (· != '='))
  let value := match text.dropWhile (· != '=') with
    | [] => none
    | _ :: value => some (String.ofList value)
  match longNames.lookup name with
  | some named => .option named value
  | none => .unknown

/-- What a word means by itself. -/
def Word.ofText (text : String) : Word :=
  match text.toList with
  | ['-', '-'] => .endOfOptions
  | '-' :: '-' :: long => longOption long
  | ['-'] => .signature text
  | '-' :: c :: rest =>
    match shortNames.lookup c with
    | some (.valued key) => .option (.valued key) (attached rest)
    | some (.flag flag) => .option (.flag flag) none
    | none => .unknown
  | _ => .signature text

/-- Whether a word cannot be the value of the option before it. -/
def looksLikeOption (text : String) : Bool :=
  match text.toList with
  | '-' :: _ :: _ => true
  | _ => false

/-- Reads the words after `--`. -/
def readSignatures (options : Options) (words : List String) : Request :=
  .run { options with signatures := options.signatures ++ words }

/-- Reads the words of a command line. -/
def readWords (options : Options) : List String → Request
  | [] => .run options
  | word :: rest =>
    match Word.ofText word with
    | .endOfOptions => readSignatures options rest
    | .signature text => readWords (options.addSignature text) rest
    | .unknown => .misuse
    | .option (.flag _) (some _) => .misuse
    | .option (.flag .help) none => .help
    | .option (.flag .version) none => .version
    | .option (.flag .shape) none =>
      if options.shape then .misuse else readWords { options with shape := true } rest
    | .option (.flag .listFormats) none =>
      if options.listFormats then .misuse else readWords { options with listFormats := true } rest
    | .option (.valued key) (some value) =>
      match options.setValue key value with
      | some options => readWords options rest
      | none => .misuse
    | .option (.valued key) none =>
      match rest with
      | [] => .misuse
      | value :: rest =>
        if looksLikeOption value then .misuse
        else
          match options.setValue key value with
          | some options => readWords options rest
          | none => .misuse

/-- What a command line asks for. -/
def Request.ofWords (words : List String) : Request :=
  match readWords .none words with
  | .run options =>
    if options.file.isSome && !options.signatures.isEmpty then .misuse else .run options
  | other => other

end CallSig.Command
