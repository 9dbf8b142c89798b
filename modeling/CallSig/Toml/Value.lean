/-!
# TOML values

The values of a TOML document. Dates and times are kept in the one form in which
they are shown: parts joined by `T`, at most nine fractional digits of a second
and none that are zeros at the end, an offset of `Z` or of hours and minutes.
-/

namespace CallSig.Toml

/-- A value of a document. A date or time is its text. -/
inductive Value where
  | string (text : String)
  | integer (value : Int)
  | float (value : Float)
  | bool (value : Bool)
  | datetime (text : String)
  | array (items : List Value)
  | table (fields : List (String × Value))
  deriving Inhabited

end CallSig.Toml
