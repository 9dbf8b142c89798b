import CallSig.Text.Extender
import CallSig.Text.Hex
import CallSig.Text.Printable

/-!
# Text quoted for a reader

Messages show a text between double quotes. A quote and a backslash inside are
escaped, the usual blanks have their short escapes, and a character that cannot
be seen on its own is written by its code point as `\u{...}` with the fewest
lower-case digits. A single quote stays as it is.
-/

namespace CallSig.Text

/-- A character as it stands inside a quoted text. -/
def quotedChar (c : Char) : List Char :=
  if c = '\x22' then ['\\', '\x22']
  else if c = '\\' then ['\\', '\\']
  else if c = '\t' then ['\\', 't']
  else if c = '\n' then ['\\', 'n']
  else if c = '\r' then ['\\', 'r']
  else if c = '\x00' then ['\\', '0']
  else if isPrintable c && !isExtender c then [c]
  else ['\\', 'u', '\x7b'] ++ hexShortest lowerHexDigit c.toNat ++ ['\x7d']

/-- The text between double quotes, with escapes. -/
def quoted (text : String) : String :=
  String.ofList ('\x22' :: text.toList.flatMap quotedChar ++ ['\x22'])

end CallSig.Text
