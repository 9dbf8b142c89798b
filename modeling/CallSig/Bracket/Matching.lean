/-!
# The bracket that closes the first one

The structural brackets of a signature are matched by counting the depth of one
pair: quotes and other brackets mean nothing here. `splitClose?` cuts the text
after an opening bracket into what it encloses and what follows its closing
bracket; `matchingClose?` gives the place of that bracket as a count of UTF-8
octets, which is how places in a text are told to callers.

When both brackets of a pair are the same character, every occurrence opens, so
nothing ever closes. `splitClose?_eq_some` says that no character is lost.
-/

namespace CallSig.Bracket

/-- The number of octets that the characters take in UTF-8. -/
def utf8Length : List Char → Nat
  | [] => 0
  | c :: rest => c.utf8Size + utf8Length rest

@[simp] theorem utf8Length_nil : utf8Length [] = 0 := rfl

@[simp] theorem utf8Length_cons (c : Char) (rest : List Char) :
    utf8Length (c :: rest) = c.utf8Size + utf8Length rest := rfl

@[simp] theorem utf8Length_append (first second : List Char) :
    utf8Length (first ++ second) = utf8Length first + utf8Length second := by
  induction first with
  | nil => simp
  | cons c rest ih => simp [ih, Nat.add_assoc]

/-- The characters of a string take the octets of the string. -/
theorem utf8Length_toList (text : String) : utf8Length text.toList = text.utf8ByteSize := by
  refine String.push_induction text (fun text => utf8Length text.toList = text.utf8ByteSize)
    (by simp) fun before c ih => ?_
  simp [ih]

/-- The text up to the close of the bracket that is open in front of it, and
the text after that close; `depth` further brackets of the pair are open inside
it. -/
def splitClose? (opener closer : Char) : Nat → List Char → Option (List Char × List Char)
  | _, [] => none
  | depth, c :: rest =>
    if c = opener then
      (splitClose? opener closer (depth + 1) rest).map fun (inner, after) => (c :: inner, after)
    else if c = closer then
      match depth with
      | 0 => some ([], rest)
      | depth + 1 =>
        (splitClose? opener closer depth rest).map fun (inner, after) => (c :: inner, after)
    else
      (splitClose? opener closer depth rest).map fun (inner, after) => (c :: inner, after)

/-- The content of the bracket pair that a text starts with, and what follows
the pair. -/
def group? (opener closer : Char) : List Char → Option (List Char × List Char)
  | [] => none
  | c :: rest => if c = opener then splitClose? opener closer 0 rest else none

/-- The place of the bracket that closes the one a text starts with. -/
def matchingClose? (text : String) (opener closer : Char) : Option Nat :=
  (group? opener closer text.toList).map fun (inner, _) => utf8Length (opener :: inner)

/-- The content, the closing bracket and what follows make up the text. -/
theorem splitClose?_eq_some {opener closer : Char} {depth : Nat} {text inner after : List Char}
    (split : splitClose? opener closer depth text = some (inner, after)) :
    text = inner ++ closer :: after := by
  fun_induction splitClose? opener closer depth text generalizing inner with
  | case1 => simp at split
  | case2 depth rest ih =>
    obtain ⟨⟨innerRest, afterRest⟩, found, same⟩ := Option.map_eq_some_iff.mp split
    simp only [Prod.mk.injEq] at same
    obtain ⟨rfl, rfl⟩ := same
    simp [ih found]
  | case3 rest => simp_all
  | case4 rest _ depth ih =>
    obtain ⟨⟨innerRest, afterRest⟩, found, same⟩ := Option.map_eq_some_iff.mp split
    simp only [Prod.mk.injEq] at same
    obtain ⟨rfl, rfl⟩ := same
    simp [ih found]
  | case5 depth c rest _ _ ih =>
    obtain ⟨⟨innerRest, afterRest⟩, found, same⟩ := Option.map_eq_some_iff.mp split
    simp only [Prod.mk.injEq] at same
    obtain ⟨rfl, rfl⟩ := same
    simp [ih found]

theorem splitClose?_length_lt {opener closer : Char} {depth : Nat}
    {text inner after : List Char}
    (split : splitClose? opener closer depth text = some (inner, after)) :
    inner.length + after.length < text.length := by
  simp [splitClose?_eq_some split]

end CallSig.Bracket
