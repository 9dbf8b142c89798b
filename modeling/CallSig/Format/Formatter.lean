import CallSig.Format.Outline
import CallSig.Json.Record
import CallSig.Yaml.Printer

/-!
# Formatters

A `Formatter` writes reports under a name. Four are built in: JSON with and
without line ends, YAML, and the text outline. None of these can fail, but one
that a caller adds may.
-/

namespace CallSig

/-- Why reports could not be written. -/
inductive FormatError where
  /-- No formatter goes by this name. -/
  | notFound (name : String)
  | serialization (message : String)
  deriving Repr, DecidableEq

def FormatError.message : FormatError → String
  | .notFound name => "Format '" ++ name ++ "' not found"
  | .serialization message => "Serialization error: " ++ message

/-- A way of writing reports, and the name it goes by. -/
structure Formatter where
  name : String
  description : String
  write : List Report → Except FormatError String

namespace Formatter

/-- A formatter that cannot fail. -/
def total (name description : String) (write : List Report → String) : Formatter :=
  ⟨name, description, fun reports => .ok (write reports)⟩

def json : Formatter :=
  .total "json" "Indented JSON array of parse reports" fun reports =>
    (Json.encodeReports reports).pretty

def jsonCompact : Formatter :=
  .total "json-compact" "Single-line JSON array of parse reports" fun reports =>
    (Json.encodeReports reports).compact

def yaml : Formatter :=
  .total "yaml" "YAML sequence of parse reports" fun reports =>
    Yaml.render (Json.encodeReports reports)

def text : Formatter :=
  .total "text" "Human-readable outline, one argument per line" outlineText

/-- The formatters that are always there. -/
def builtIn : List Formatter :=
  [json, jsonCompact, yaml, text]

end Formatter

end CallSig
