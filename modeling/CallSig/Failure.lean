import CallSig.Files
import CallSig.Format.Formatter
import CallSig.Settings.Error

/-!
# Why a run fails

Reading signatures never fails; reading a file or standard input, loading
settings and writing reports may. A `Failure` keeps the cause, whose own message
is `cause`.
-/

namespace CallSig

/-- Why a run fails. -/
inductive Failure where
  | input (error : ReadError)
  | settings (error : Settings.Error)
  | format (error : FormatError)
  deriving Repr, DecidableEq

namespace Failure

/-- The message of the cause. -/
def cause : Failure → String
  | .input error => error.message
  | .settings error => error.message
  | .format error => error.message

/-- The message of the failure. -/
def message : Failure → String
  | .input error => "I/O error: " ++ error.message
  | .settings error => "Configuration error: " ++ error.message
  | .format error => error.message

end Failure

end CallSig
