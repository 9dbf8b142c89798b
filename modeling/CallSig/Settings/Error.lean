import CallSig.Text.Quoted

/-!
# What can be wrong with settings

The causes for which no settings come out of the sources, each with its message.
-/

namespace CallSig.Settings

/-- What was found instead of a value of the wanted type. -/
inductive Found where
  | nothing
  | text (value : String)
  | list
  | table
  deriving Repr, DecidableEq

def Found.describe : Found → String
  | .nothing => "unit value"
  | .text value => "string " ++ Text.quoted value
  | .list => "sequence"
  | .table => "map"

/-- Why no settings come out of the sources. -/
inductive Error where
  /-- A required file is not there. -/
  | fileMissing (path : String)
  /-- A required file is no text. -/
  | notUtf8
  /-- A file is no TOML document. -/
  | malformedFile
  /-- A file is a TOML document whose root is a date or time. -/
  | rootNoTable (text name : String)
  /-- A key is no path. -/
  | malformedKey
  /-- A value has another type than its key wants. -/
  | wrongType (found : Found) (expected key : String) (origin : Option String)
  /-- A section is neither a table nor a list. -/
  | wrongSection (found record : String)
  /-- A section is a list that ends too early. -/
  | shortSection (length : Nat) (record : String) (size : Nat)
  | missingField (name : String)
  | notFound (key : String)
  | frozen
  /-- A key names a place of a list that there is no room for. The loading does not
  fail with this, it is broken off. -/
  | noRoom
  | other (message : String)
  deriving Repr, DecidableEq

/-- A number of elements in words. -/
def elementCount (size : Nat) : String :=
  toString size ++ if size = 1 then " element" else " elements"

def Error.message : Error → String
  | .fileMissing path => "configuration file \"" ++ path ++ "\" not found"
  | .notUtf8 => "stream did not contain valid UTF-8"
  | .malformedFile => "TOML parse error"
  | .rootNoTable text name =>
    "invalid type: " ++ (Found.text text).describe ++ ", expected a map in " ++ name ++ " in " ++
      name
  | .malformedKey => "invalid key"
  | .wrongType found expected key origin =>
    "invalid type: " ++ found.describe ++ ", expected " ++ expected ++ " for key `" ++ key ++
      "`" ++ (origin.map fun file => " in " ++ file).getD ""
  | .wrongSection found record => "invalid type: " ++ found ++ ", expected struct " ++ record
  | .shortSection length record size =>
    "invalid length " ++ toString length ++ ", expected struct " ++ record ++ " with " ++
      elementCount size
  | .missingField name => "missing field `" ++ name ++ "`"
  | .notFound key => "configuration property " ++ Text.quoted key ++ " not found"
  | .frozen => "configuration is frozen"
  | .noRoom => "capacity overflow"
  | .other message => message

end CallSig.Settings
