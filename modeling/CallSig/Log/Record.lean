/-!
# Log records

A record has a level, the part of the program that it comes from, and a message.
-/

namespace CallSig.Log

/-- How much a record matters. -/
inductive Level where
  | error
  | warn
  | info
  | debug
  | trace
  deriving Repr, DecidableEq

/-- The levels by falling importance, counted from one. -/
def Level.rank : Level → Nat
  | .error => 1
  | .warn => 2
  | .info => 3
  | .debug => 4
  | .trace => 5

def Level.label : Level → String
  | .error => "ERROR"
  | .warn => "WARN"
  | .info => "INFO"
  | .debug => "DEBUG"
  | .trace => "TRACE"

/-- One record of a log. -/
structure Record where
  level : Level
  target : String
  message : String
  deriving Repr, DecidableEq

/-- The message with its further lines indented. -/
def Record.shown (record : Record) : String :=
  "\n    ".intercalate (record.message.splitOn "\n")

end CallSig.Log
