import CallSig.Toml.Lexical

/-!
# Dates and times

A date, a time, or a date with a time, in their two spellings: a word of a
document (`ofWord?`), and a string that stands for a date or time (`ofText?`). The
string may say a little more: the hour goes up to 24, a date without a time may
have an offset, a space may come before the time, and the parts of an offset are
any two digits as long as the whole lies within a day.

Both give the text as it is shown: date and time joined by `T`, at most nine
fractional digits of a second and none that are zeros at the end.
-/

namespace CallSig.Toml.Datetime

/-- The number of two digits, when it is not above the limit. -/
def twoDigits? (limit : Nat) (a b : Char) : Option Nat :=
  if isDigit a && isDigit b && ofDigits 10 [a, b] ≤ limit then some (ofDigits 10 [a, b])
  else none

/-! ## Dates -/

def isLeapYear (year : Nat) : Bool :=
  year % 4 = 0 && (year % 100 != 0 || year % 400 = 0)

def daysIn (year month : Nat) : Nat :=
  if month = 2 then (if isLeapYear year then 29 else 28)
  else if [4, 6, 9, 11].contains month then 30
  else 31

/-- The date at the start of a text, and what follows it. -/
def readDate? : List Char → Option (List Char × List Char)
  | y1 :: y2 :: y3 :: y4 :: '-' :: m1 :: m2 :: '-' :: d1 :: d2 :: rest => do
    let year := [y1, y2, y3, y4]
    if !year.all isDigit then none
    else
      let month ← twoDigits? 12 m1 m2
      let day ← twoDigits? (daysIn (ofDigits 10 year) month) d1 d2
      if month = 0 || day = 0 then none
      else some (year ++ ['-', m1, m2, '-', d1, d2], rest)
  | _ => none

/-! ## Times -/

/-- The fraction of a second as it is shown. -/
def shownFraction (digits : List Char) : List Char :=
  match ((digits.take 9).reverse.dropWhile (· = '0')).reverse with
  | [] => []
  | kept => '.' :: kept

/-- The time at the start of a text, and what follows it; `lastHour` is the
greatest hour. -/
def readTime? (lastHour : Nat) : List Char → Option (List Char × List Char)
  | h1 :: h2 :: ':' :: m1 :: m2 :: ':' :: s1 :: s2 :: rest => do
    let _ ← twoDigits? lastHour h1 h2
    let _ ← twoDigits? 59 m1 m2
    let _ ← twoDigits? 60 s1 s2
    let time := [h1, h2, ':', m1, m2, ':', s1, s2]
    match rest with
    | '.' :: more =>
      let digits := more.takeWhile isDigit
      if digits.isEmpty then none
      else some (time ++ shownFraction digits, more.dropWhile isDigit)
    | rest => some (time, rest)
  | _ => none

/-! ## Offsets -/

/-- A number below a hundred in two digits. -/
def shownTwo (n : Nat) : List Char :=
  [Nat.digitChar (n / 10), Nat.digitChar (n % 10)]

/-- An offset as it is shown; no offset is negative zero. -/
def shownOffset (negative : Bool) (minutes : Nat) : List Char :=
  (if negative && minutes != 0 then '-' else '+') ::
    (shownTwo (minutes / 60) ++ ':' :: shownTwo (minutes % 60))

/-- The number of minutes in a day. -/
def minutesInDay : Nat := 24 * 60

/-- The offset that a whole text is, if it is not empty. The greatest number of
hours and the greatest one of minutes are given. -/
def offset? (lastHour lastMinute : Nat) : List Char → Option (List Char)
  | [] => some []
  | [z] => if z = 'Z' || z = 'z' then some ['Z'] else none
  | [sign, h1, h2, ':', m1, m2] => do
    let minutes := (← twoDigits? lastHour h1 h2) * 60 + (← twoDigits? lastMinute m1 m2)
    if (sign = '+' || sign = '-') && minutes ≤ minutesInDay then
      some (shownOffset (sign = '-') minutes)
    else none
  | _ => none

/-! ## Words -/

/-- A time with or without an offset. -/
def timeWithOffset? (word : List Char) : Option (List Char) := do
  let (time, rest) ← readTime? 23 word
  pure (time ++ (← offset? 23 59 rest))

/-- A word that is a date, a time, or both joined by a letter. -/
def ofWord? (word : List Char) : Option String :=
  match readDate? word with
  | some (date, []) => some (String.ofList date)
  | some (date, t :: rest) =>
    if t = 'T' || t = 't' then
      (timeWithOffset? rest).map fun time => String.ofList (date ++ 'T' :: time)
    else none
  | none =>
    match readTime? 23 word with
    | some (time, []) => some (String.ofList time)
    | _ => none

/-! ## Strings -/

/-- The time after a date, behind a `T` or a space, and what follows it. -/
def readTimePart? : List Char → Option (List Char × List Char)
  | [] => some ([], [])
  | t :: rest =>
    if t = 'T' || t = 't' || t = ' ' then
      (readTime? 24 rest).map fun (time, after) => ('T' :: time, after)
    else some ([], t :: rest)

/-- A string that is a time alone, when its third character is a colon, or else a
date with whatever may follow it. -/
def ofText? (text : String) : Option String :=
  match text.toList with
  | h1 :: h2 :: ':' :: rest =>
    match readTime? 24 (h1 :: h2 :: ':' :: rest) with
    | some (time, []) => some (String.ofList time)
    | _ => none
  | chars => do
    let (date, rest) ← readDate? chars
    let (time, rest) ← readTimePart? rest
    let offset ← offset? 99 99 rest
    pure (String.ofList (date ++ time ++ offset))

end CallSig.Toml.Datetime
