import CallSig.Text.Hex

/-!
# The pieces of a TOML text

Blanks, comments, line ends, keys in their three spellings and strings in their
four. A reader takes the characters from some place on and returns what it found
and the characters after it, or nothing when the text is malformed.

A control character other than a tab stands nowhere in a document; a line ends
with a line feed, in front of which a carriage return may stand.
-/

namespace CallSig.Toml

def isBlank (c : Char) : Bool :=
  c = ' ' || c = '\t'

/-- Whether the character may stand in a comment, or in a string of one line. -/
def isPlain (c : Char) : Bool :=
  c = '\t' || (0x20 ≤ c.toNat && c.toNat != 0x7F)

def isDigit (c : Char) : Bool :=
  '0' ≤ c && c ≤ '9'

/-- The number that digits write in a base of up to sixteen. -/
def ofDigits (base : Nat) (digits : List Char) : Nat :=
  digits.foldl (fun n c => n * base + (Text.hexValue? c).getD 0) 0

/-- Whether the character may stand in a key without quotes. -/
def isBareKey (c : Char) : Bool :=
  c.isAlphanum || c = '_' || c = '-'

def skipBlanks (text : List Char) : List Char :=
  text.dropWhile isBlank

/-- The text after a line end. -/
def newline? : List Char → Option (List Char)
  | '\n' :: rest => some rest
  | '\r' :: '\n' :: rest => some rest
  | _ => none

/-- The text of the next line, once nothing but blanks and a comment is left on
this one. -/
def lineEnd? (text : List Char) : Option (List Char) :=
  let rest := match skipBlanks text with
    | '#' :: comment => comment.dropWhile isPlain
    | rest => rest
  if rest.isEmpty then some [] else newline? rest

/-- The text after blanks, line ends and comments. What cannot be passed over,
such as a stray carriage return, is left in front. -/
def skipLines : Bool → List Char → List Char
  | _, [] => []
  | inComment, c :: rest =>
    if c = '\n' then skipLines false rest
    else if c = '\r' then
      if rest.head? = some '\n' then skipLines false rest else c :: rest
    else if inComment then
      if isPlain c then skipLines true rest else c :: rest
    else if isBlank c then skipLines false rest
    else if c = '#' then skipLines true rest
    else c :: rest

/-! ## Strings -/

/-- The character of an escape of one letter. -/
def shortEscape? (c : Char) : Option Char :=
  if c = 'b' then some '\x08'
  else if c = 't' then some '\t'
  else if c = 'n' then some '\n'
  else if c = 'f' then some '\x0c'
  else if c = 'r' then some '\r'
  else if c = '\x22' || c = '\\' then some c
  else none

/-- The character that hexadecimal digits give the code point of. -/
def scalar? (digits : List Char) : Option Char := do
  let code ← digits.foldlM (fun n c => (Text.hexValue? c).map (n * 16 + ·)) 0
  if code < 0xD800 || (0xE000 ≤ code && code < 0x110000) then some (Char.ofNat code) else none

/-- A character in front of a text that is read already. -/
def prepend (c : Char) (read : Option (List Char × List Char)) :
    Option (List Char × List Char) :=
  read.map fun (text, rest) => (c :: text, rest)

/-- A basic string, from the character after its quote on. -/
def readBasic : List Char → Option (List Char × List Char)
  | [] => none
  | '\\' :: e :: rest =>
    if e = 'u' then
      match rest with
      | a :: b :: c :: d :: rest => (scalar? [a, b, c, d]).bind fun x => prepend x (readBasic rest)
      | _ => none
    else if e = 'U' then
      match rest with
      | a :: b :: c :: d :: e :: f :: g :: h :: rest =>
        (scalar? [a, b, c, d, e, f, g, h]).bind fun x => prepend x (readBasic rest)
      | _ => none
    else (shortEscape? e).bind fun x => prepend x (readBasic rest)
  | c :: rest =>
    if c = '\x22' then some ([], rest)
    else if isPlain c && c != '\\' then prepend c (readBasic rest)
    else none

/-- A literal string, from the character after its quote on. -/
def readLiteral (text : List Char) : Option (List Char × List Char) :=
  let inLine (c : Char) : Bool := isPlain c && c != '\x27'
  match text.dropWhile inLine with
  | '\x27' :: rest => some (text.takeWhile inLine, rest)
  | _ => none

/-- The end of a string of several lines: up to two quotes in front of the
closing three belong to the string. -/
def closeLines? (quote : Char) : List Char → Option (List Char × List Char)
  | a :: b :: c :: rest =>
    if a = quote && b = quote && c = quote then
      match rest with
      | d :: e :: after =>
        if d = quote && e = quote then some ([quote, quote], after)
        else if d = quote then some ([quote], e :: after)
        else some ([], rest)
      | [d] => if d = quote then some ([quote], []) else some ([], rest)
      | [] => some ([], [])
    else none
  | _ => none

/-- Whether nothing but blanks comes before the end of the line. -/
def lineIsOver (text : List Char) : Bool :=
  (newline? (skipBlanks text)).isSome

/-- A basic string of several lines, from the character after its quotes on.
After a backslash at the end of a line, blanks and line ends are `trimming` away
up to the next visible character. -/
def readBasicLines : Bool → List Char → Option (List Char × List Char)
  | _, [] => none
  | trimming, '\r' :: '\n' :: rest =>
    if trimming then readBasicLines true rest else prepend '\n' (readBasicLines false rest)
  | _, '\\' :: e :: rest =>
    if lineIsOver (e :: rest) then readBasicLines true (e :: rest)
    else if e = 'u' then
      match rest with
      | a :: b :: c :: d :: rest =>
        (scalar? [a, b, c, d]).bind fun x => prepend x (readBasicLines false rest)
      | _ => none
    else if e = 'U' then
      match rest with
      | a :: b :: c :: d :: e :: f :: g :: h :: rest =>
        (scalar? [a, b, c, d, e, f, g, h]).bind fun x => prepend x (readBasicLines false rest)
      | _ => none
    else (shortEscape? e).bind fun x => prepend x (readBasicLines false rest)
  | trimming, c :: rest =>
    match closeLines? '\x22' (c :: rest) with
    | some closed => some closed
    | none =>
      if c = '\n' then
        if trimming then readBasicLines true rest else prepend '\n' (readBasicLines false rest)
      else if trimming && isBlank c then readBasicLines true rest
      else if isPlain c && c != '\\' then prepend c (readBasicLines false rest)
      else none

/-- A literal string of several lines, from the character after its quotes on. -/
def readLiteralLines : List Char → Option (List Char × List Char)
  | [] => none
  | '\r' :: '\n' :: rest => prepend '\n' (readLiteralLines rest)
  | c :: rest =>
    match closeLines? '\x27' (c :: rest) with
    | some closed => some closed
    | none =>
      if c = '\n' || isPlain c then prepend c (readLiteralLines rest) else none

/-- The text after a line end that directly follows the opening quotes. -/
def afterOpening (text : List Char) : List Char :=
  (newline? text).getD text

/-- A string of any kind, from its first quote on. -/
def readString : List Char → Option (List Char × List Char)
  | '\x22' :: '\x22' :: '\x22' :: rest => readBasicLines false (afterOpening rest)
  | '\x22' :: rest => readBasic rest
  | '\x27' :: '\x27' :: '\x27' :: rest => readLiteralLines (afterOpening rest)
  | '\x27' :: rest => readLiteral rest
  | _ => none

/-! ## Keys -/

/-- One part of a key: a word without quotes, or a string of one line. -/
def readKeyPart : List Char → Option (String × List Char)
  | '\x22' :: rest => (readBasic rest).map fun (text, rest) => (String.ofList text, rest)
  | '\x27' :: rest => (readLiteral rest).map fun (text, rest) => (String.ofList text, rest)
  | text =>
    match text.takeWhile isBareKey with
    | [] => none
    | word => some (String.ofList word, text.dropWhile isBareKey)

/-- Parts of a key joined by dots, with blanks around each of them; `fuel` bounds
their number. -/
def readKey : Nat → List Char → Option (List String × List Char)
  | 0, _ => none
  | fuel + 1, text => do
    let (part, rest) ← readKeyPart (skipBlanks text)
    match skipBlanks rest with
    | '.' :: more =>
      let (parts, rest) ← readKey fuel more
      pure (part :: parts, rest)
    | rest => pure ([part], rest)

/-- The greatest number of parts of a key. -/
def keyLimit : Nat := 79

/-- The number of containers inside one another is less than this. -/
def nestingLimit : Nat := 80

end CallSig.Toml
