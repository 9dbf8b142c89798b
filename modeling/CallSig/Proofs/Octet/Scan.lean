import CallSig.Proofs.Bracket.Locality
import CallSig.Proofs.Octet.Encoding
import CallSig.Proofs.Octet.Slice

/-!
# Scanning octets

`scan` finds the stop that `cut?` finds, and reads octets instead of characters.
In a quoted string it takes two octets at a backslash (`skipQuoted`), which may
end inside a character; the octets left of it are beyond ASCII, so they are
neither a quote nor a backslash. `scan_octets` says that the place found is the
end of what `cut?` walks over, and `scanTo?_stopsAt` that this place is a boundary of
characters, at the end of the text or at a stop. `scanTo?_local` says that the text
behind a stop has no part in where the scan ends.
-/

namespace CallSig.Octet

open CallSig.Bracket

/-- Whether the octet is a stop. -/
def isStop (stops : List Char) (b : UInt8) : Bool :=
  b.toNat < 128 && stops.contains (Char.ofUInt8 b)

def isQuote (b : UInt8) : Bool :=
  b = '\x27'.toUInt8 || b = '\x22'.toUInt8

/-- The place behind the quote that closes a string, and the octets from there;
`index` is the place where the octets start. -/
def skipQuoted (quote : UInt8) (index : Nat) : List UInt8 → Option (Nat × List UInt8)
  | [] => none
  | b :: rest =>
    if b = '\\'.toUInt8 then
      match rest with
      | [] => none
      | _ :: rest => skipQuoted quote (index + 2) rest
    else if b = quote then some (index + 1, rest)
    else skipQuoted quote (index + 1) rest

/-- Whether the octet ends the construct around it. -/
def bounds (stops : List Char) (innermost : Option UInt8) (b : UInt8) : Bool :=
  match innermost with
  | some closer => b == closer
  | none => isStop stops b

/-- Whether a `>` comes before the end of the construct around it. -/
def angleCloses (stops : List Char) (innermost : Option UInt8) : List UInt8 → Bool
  | [] => false
  | b :: rest =>
    if b = '>'.toUInt8 then true
    else if bounds stops innermost b then false
    else angleCloses stops innermost rest

/-- The closer that becomes due at an octet. -/
def opens? (stops : List Char) (pending : List UInt8) (b : UInt8) (rest : List UInt8) :
    Option UInt8 :=
  if b = '('.toUInt8 then some ')'.toUInt8
  else if b = '['.toUInt8 then some ']'.toUInt8
  else if b = '{'.toUInt8 then some '}'.toUInt8
  else if b = '<'.toUInt8 ∧ !pending.contains '>'.toUInt8 ∧
      angleCloses stops pending.head? rest then
    some '>'.toUInt8
  else none

/-- Octets are gone past with a string, so that the scan comes to an end. -/
theorem skipQuoted_length_lt {quote : UInt8} {index stop : Nat} {text rest : List UInt8}
    (skipped : skipQuoted quote index text = some (stop, rest)) : rest.length < text.length := by
  fun_induction skipQuoted quote index text with
  | case1 => cases skipped
  | case2 => cases skipped
  | case3 index b rest ih =>
    have shorter := ih skipped
    simp only [List.length_cons]
    omega
  | case4 =>
    cases skipped
    simp
  | case5 index b rest _ _ ih =>
    have shorter := ih skipped
    simp only [List.length_cons]
    omega

/-- The place of the first stop outside brackets and quotes, or of the end, in
octets that start at the place `index`. -/
def scan (stops : List Char) (pending : List UInt8) (index : Nat) (text : List UInt8) :
    Option Nat :=
  match text with
  | [] => if pending = [] then some index else none
  | b :: rest =>
    if pending = [] ∧ isStop stops b then some index
    else if isQuote b then
      match _skipped : skipQuoted b (index + 1) rest with
      | none => none
      | some (after, left) => scan stops pending after left
    else if pending.head? = some b then scan stops pending.tail (index + 1) rest
    else scan stops ((opens? stops pending b rest).toList ++ pending) (index + 1) rest
termination_by text.length
decreasing_by
  · have shorter := skipQuoted_length_lt _skipped
    simp only [List.length_cons]
    omega
  all_goals simp

/-- The place of the first stop outside brackets and quotes, or of the end. -/
def scanTo? (text : String) (stops : List Char) : Option Nat :=
  scan stops [] 0 (octetsOf text)

/-! ## Octets beyond ASCII -/

variable {stops : List Char} {high : List UInt8}

theorem isStop_of_high {b : UInt8} (beyond : High b) : isStop stops b = false := by
  simp [isStop, Nat.not_lt.mpr beyond]

theorem isQuote_of_high {b : UInt8} (beyond : High b) : isQuote b = false := by
  simp [isQuote, beyond.ne (by decide : Ascii '\x27'), beyond.ne (by decide : Ascii '\x22')]

theorem opens?_of_high {b : UInt8} (beyond : High b) (pending rest : List UInt8) :
    opens? stops pending b rest = none := by
  have ascii : ∀ c ∈ ['(', '[', '{', '<'], Ascii c := List.all_iff_forall_prop.mp (by decide)
  have others : ∀ c ∈ ['(', '[', '{', '<'], b ≠ c.toUInt8 := fun c inside =>
    beyond.ne (ascii c inside)
  simp only [List.forall_mem_cons] at others
  simp [opens?, others]

/-- Octets beyond ASCII in a string are gone past one by one. -/
theorem skipQuoted_high {quote : Char} (ascii : Ascii quote) (beyond : ∀ b ∈ high, High b)
    (index : Nat) (rest : List UInt8) :
    skipQuoted quote.toUInt8 index (high ++ rest) =
      skipQuoted quote.toUInt8 (index + high.length) rest := by
  induction high generalizing index with
  | nil => rfl
  | cons b high ih =>
    obtain ⟨beyondFirst, beyondRest⟩ := List.forall_mem_cons.mp beyond
    rw [List.cons_append, skipQuoted.eq_def]
    simp only [beyondFirst.ne (by decide : Ascii '\\'), beyondFirst.ne ascii, if_false]
    rw [ih beyondRest, List.length_cons, Nat.add_assoc, Nat.add_comm 1]

theorem ascii_of_isCloser {c : Char} (closes : isCloser c = true) : Ascii c := by
  simp only [isCloser, Bool.or_eq_true, decide_eq_true_eq] at closes
  rcases closes with ((rfl | rfl) | rfl) | rfl <;> decide

/-- Outside of strings, too, octets beyond ASCII are gone past one by one. -/
theorem scan_high {pending : List Char} (wellFormed : (State.plain pending).WellFormed)
    (beyond : ∀ b ∈ high, High b) (index : Nat) (rest : List UInt8) :
    scan stops (pending.map Char.toUInt8) index (high ++ rest) =
      scan stops (pending.map Char.toUInt8) (index + high.length) rest := by
  induction high generalizing index with
  | nil => rfl
  | cons b high ih =>
    obtain ⟨beyondFirst, beyondRest⟩ := List.forall_mem_cons.mp beyond
    have notDue : (pending.map Char.toUInt8).head? ≠ some b := by
      intro due
      obtain ⟨c, inside, rfl⟩ := List.mem_map.mp (List.mem_of_mem_head? due)
      exact beyondFirst.ne (ascii_of_isCloser (wellFormed c inside)) rfl
    rw [List.cons_append, scan]
    simp only [isStop_of_high beyondFirst, isQuote_of_high beyondFirst, opens?_of_high beyondFirst,
      notDue, and_false, if_false, Option.toList_none, List.nil_append, Bool.false_eq_true]
    rw [ih beyondRest, List.length_cons, Nat.add_assoc, Nat.add_comm 1]

theorem bounds_of_high {b : UInt8} {innermost : Option Char}
    (closes : ∀ c ∈ innermost, isCloser c = true) (beyond : High b) :
    bounds stops (innermost.map Char.toUInt8) b = false := by
  cases innermost with
  | none => exact isStop_of_high beyond
  | some closer =>
    have other := beyond.ne (ascii_of_isCloser (closes closer rfl))
    simp [bounds, other]

/-- The look-ahead goes past octets beyond ASCII. -/
theorem angleCloses_high {innermost : Option Char} (closes : ∀ c ∈ innermost, isCloser c = true)
    (beyond : ∀ b ∈ high, High b) (rest : List UInt8) :
    angleCloses stops (innermost.map Char.toUInt8) (high ++ rest) =
      angleCloses stops (innermost.map Char.toUInt8) rest := by
  induction high with
  | nil => rfl
  | cons b high ih =>
    obtain ⟨beyondFirst, beyondRest⟩ := List.forall_mem_cons.mp beyond
    have notClose := beyondFirst.ne (by decide : Ascii '>')
    rw [List.cons_append, angleCloses, if_neg notClose, bounds_of_high closes beyondFirst,
      if_neg Bool.false_ne_true, ih beyondRest]

/-! ## ASCII octets -/

variable {c : Char} {pending : List Char}

theorem isStop_toUInt8 (ascii : Ascii c) : isStop stops c.toUInt8 = Bracket.isStop stops c := by
  rw [isStop, Bracket.isStop, toNat_toUInt8 ascii, ofUInt8_toUInt8 ascii]

theorem isQuote_toUInt8 (ascii : Ascii c) : isQuote c.toUInt8 = Bracket.isQuote c := by
  rw [isQuote, Bracket.isQuote]
  simp only [toUInt8_inj ascii (by decide : Ascii '\x27'),
    toUInt8_inj ascii (by decide : Ascii '\x22')]

theorem isStop_of_not_ascii (notAscii : ¬Ascii c) : Bracket.isStop stops c = false := by
  simp [Bracket.isStop, Ascii] at notAscii ⊢
  omega

theorem isOrdinary_of_not_ascii (notAscii : ¬Ascii c) : isOrdinary c = true := by
  have ascii : ∀ d ∈ ['(', ')', '[', ']', '{', '}', '<', '>', '\x27', '\x22'], Ascii d :=
    List.all_iff_forall_prop.mp (by decide)
  have others : ∀ d ∈ ['(', ')', '[', ']', '{', '}', '<', '>', '\x27', '\x22'], c ≠ d := by
    rintro d inside rfl
    exact notAscii (ascii c inside)
  simp only [List.forall_mem_cons] at others
  simp [isOrdinary, Bracket.isQuote, isCloser, closer?, others]

theorem ne_of_not_ascii {d : Char} (notAscii : ¬Ascii c) (ascii : Ascii d) : c ≠ d := by
  intro same
  subst same
  exact notAscii ascii

/-- A character of ASCII and its octet settle the look-ahead alike. -/
theorem bounds_toUInt8 {innermost : Option Char} (closes : ∀ c ∈ innermost, isCloser c = true)
    (ascii : Ascii c) :
    (c == '>' || bounds stops (innermost.map Char.toUInt8) c.toUInt8) =
      settles stops innermost c := by
  cases innermost with
  | none => simp [bounds, settles, isStop_toUInt8 ascii]
  | some closer =>
    have asciiCloser := ascii_of_isCloser (closes closer rfl)
    simp only [bounds, settles, Option.map_some, beq_toUInt8 ascii asciiCloser]

theorem settles_of_not_ascii {innermost : Option Char}
    (closes : ∀ c ∈ innermost, isCloser c = true) (notAscii : ¬Ascii c) :
    settles stops innermost c = false := by
  have notClose : c ≠ '>' := ne_of_not_ascii notAscii (by decide)
  cases innermost with
  | none => simp [settles, notClose, isStop_of_not_ascii notAscii]
  | some closer =>
    have other := ne_of_not_ascii notAscii (ascii_of_isCloser (closes closer rfl))
    simp [settles, notClose, other]

/-- The look-ahead over octets is the one over characters. -/
theorem angleCloses_octets {innermost : Option Char}
    (closes : ∀ c ∈ innermost, isCloser c = true) (rest : List Char) :
    angleCloses stops (innermost.map Char.toUInt8) (octets rest) =
      Bracket.angleCloses stops innermost rest := by
  have angle : Ascii '>' := by decide
  induction rest with
  | nil => rfl
  | cons c rest ih =>
    rw [octets_cons, Bracket.angleCloses_cons]
    by_cases ascii : Ascii c
    · rw [utf8EncodeChar_of_ascii ascii, List.singleton_append, angleCloses, ih,
        ← bounds_toUInt8 closes ascii]
      simp only [toUInt8_inj ascii angle]
      by_cases close : c = '>'
      · simp [close]
      · cases bounds stops (innermost.map Char.toUInt8) c.toUInt8 <;> simp [close]
    · rw [angleCloses_high closes fun b inside => high_of_mem ascii inside, ih,
        settles_of_not_ascii closes ascii]
      rfl

theorem contains_map_toUInt8 (wellFormed : (State.plain pending).WellFormed) (ascii : Ascii c) :
    (pending.map Char.toUInt8).contains c.toUInt8 = pending.contains c := by
  induction pending with
  | nil => rfl
  | cons due pending ih =>
    obtain ⟨closes, others⟩ := List.forall_mem_cons.mp wellFormed
    rw [List.map_cons, List.contains_cons, List.contains_cons, ih others,
      beq_toUInt8 ascii (ascii_of_isCloser closes)]

/-- What an octet of ASCII opens is the octet of what the character opens. -/
theorem opens?_octets (wellFormed : (State.plain pending).WellFormed) (ascii : Ascii c)
    (rest : List Char) :
    opens? stops (pending.map Char.toUInt8) c.toUInt8 (octets rest) =
      (Bracket.opens? stops pending c rest).map Char.toUInt8 := by
  have closes : ∀ c ∈ pending.head?, isCloser c = true := fun c due =>
    wellFormed c (List.mem_of_mem_head? due)
  have look : angleCloses stops (pending.map Char.toUInt8).head? (octets rest) =
      Bracket.angleCloses stops pending.head? rest := by
    rw [List.head?_map]
    exact angleCloses_octets closes rest
  rw [opens?, look, contains_map_toUInt8 wellFormed (by decide)]
  simp only [toUInt8_inj ascii (by decide : Ascii '('), toUInt8_inj ascii (by decide : Ascii '['),
    toUInt8_inj ascii (by decide : Ascii '{'), toUInt8_inj ascii (by decide : Ascii '<')]
  by_cases angle : c = '<'
  · simp [Bracket.opens?, angle]
  · simp [Bracket.opens?, closer?, angle]
    split_ifs <;> rfl

/-! ## Quoted strings -/

/-- A quoted text up to its closing quote, and what follows it. -/
def quotedEnd? (quote : Char) : List Char → Option (List Char × List Char)
  | [] => none
  | c :: rest =>
    if c = '\\' then
      match rest with
      | [] => none
      | d :: rest => (quotedEnd? quote rest).map fun (body, left) => (c :: d :: body, left)
    else if c = quote then some ([c], rest)
    else (quotedEnd? quote rest).map fun (body, left) => (c :: body, left)

theorem quotedEnd?_eq_some {quote : Char} {text body left : List Char}
    (found : quotedEnd? quote text = some (body, left)) : text = body ++ left := by
  fun_induction quotedEnd? quote text generalizing body with
  | case1 => cases found
  | case2 => cases found
  | case3 d rest ih =>
    obtain ⟨⟨more, moreLeft⟩, again, same⟩ := Option.map_eq_some_iff.mp found
    simp only [Prod.mk.injEq] at same
    rcases same with ⟨rfl, rfl⟩
    simp [ih again]
  | case4 c rest =>
    cases found
    rfl
  | case5 c rest _ _ ih =>
    obtain ⟨⟨more, moreLeft⟩, again, same⟩ := Option.map_eq_some_iff.mp found
    simp only [Prod.mk.injEq] at same
    rcases same with ⟨rfl, rfl⟩
    simp [ih again]

/-- A walk in a quoted string goes to the quote that closes it. -/
theorem walk?_quoted {quote : Char} (pending text : List Char) :
    walk? stops (.quoted quote pending) text =
      (quotedEnd? quote text).bind fun (body, left) =>
        (walk? stops (.plain pending) left).map fun (taken, after) => (body ++ taken, after) := by
  fun_induction quotedEnd? quote text with
  | case1 => simp [walk?]
  | case2 => simp [walk?, State.stopsAt, State.next]
  | case3 d rest ih =>
    rw [walk?_of_not_stopsAt rfl, State.next, if_pos rfl, walk?_of_not_stopsAt rfl, State.next, ih]
    cases quotedEnd? quote rest <;> simp [Function.comp_def]
  | case4 rest notEscape =>
    rw [walk?_of_not_stopsAt rfl, State.next, if_neg notEscape, if_pos rfl]
    simp
  | case5 c rest notEscape notQuote ih =>
    rw [walk?_of_not_stopsAt rfl, State.next, if_neg notEscape, if_neg notQuote, ih]
    cases quotedEnd? quote rest <;> simp [Function.comp_def]

/-- Behind a backslash one octet is taken, and the others of its character are
gone past. -/
theorem skipQuoted_escape {quote : Char} (ascii : Ascii quote) (index : Nat) (d : Char)
    (rest : List UInt8) :
    skipQuoted quote.toUInt8 index ('\\'.toUInt8 :: (String.utf8EncodeChar d ++ rest)) =
      skipQuoted quote.toUInt8 (index + 1 + d.utf8Size) rest := by
  cases encoded : String.utf8EncodeChar d with
  | nil => exact absurd encoded String.utf8EncodeChar_ne_nil
  | cons b high =>
    have beyond : ∀ other ∈ high, High other := by
      intro other inside
      by_cases asciiD : Ascii d
      · rw [utf8EncodeChar_of_ascii asciiD, List.cons.injEq] at encoded
        rw [← encoded.2] at inside
        cases inside
      · exact high_of_mem asciiD (encoded ▸ List.mem_cons_of_mem b inside)
    have size := String.length_utf8EncodeChar d
    rw [encoded, List.length_cons] at size
    rw [List.cons_append, skipQuoted, if_pos rfl, skipQuoted_high ascii beyond, ← size]
    congr 1
    omega

/-- A string is gone past over octets as over characters. -/
theorem skipQuoted_octets {quote : Char} (ascii : Ascii quote) (index : Nat) (text : List Char) :
    skipQuoted quote.toUInt8 index (octets text) =
      (quotedEnd? quote text).map fun (body, left) => (index + utf8Length body, octets left) := by
  have escape : Ascii '\\' := by decide
  fun_induction quotedEnd? quote text generalizing index with
  | case1 => rfl
  | case2 =>
    rw [octets_cons, utf8EncodeChar_of_ascii escape]
    rfl
  | case3 d rest ih =>
    rw [octets_cons, octets_cons, utf8EncodeChar_of_ascii escape, List.singleton_append,
      skipQuoted_escape ascii, ih]
    have size := utf8Size_of_ascii escape
    cases quotedEnd? quote rest <;> simp [size, Nat.add_assoc]
  | case4 rest notEscape =>
    rw [octets_cons, utf8EncodeChar_of_ascii ascii, List.singleton_append, skipQuoted.eq_def]
    simp [toUInt8_inj ascii escape, notEscape, utf8Size_of_ascii ascii]
  | case5 c rest notEscape notQuote ih =>
    rw [octets_cons]
    by_cases asciiC : Ascii c
    · rw [utf8EncodeChar_of_ascii asciiC, List.singleton_append, skipQuoted.eq_def]
      simp only [toUInt8_inj asciiC escape, toUInt8_inj asciiC ascii, notEscape, notQuote, if_false,
        ih]
      cases quotedEnd? quote rest <;> simp [utf8Size_of_ascii asciiC, Nat.add_assoc]
    · rw [skipQuoted_high ascii fun b inside => high_of_mem asciiC inside, ih,
        String.length_utf8EncodeChar]
      cases quotedEnd? quote rest <;> simp [Nat.add_assoc]

/-! ## A whole scan -/

theorem scan_cons (stops : List Char) (pending : List UInt8) (index : Nat) (b : UInt8)
    (rest : List UInt8) :
    scan stops pending index (b :: rest) =
      if pending = [] ∧ isStop stops b then some index
      else if isQuote b then
        (skipQuoted b (index + 1) rest).bind fun (after, left) => scan stops pending after left
      else if pending.head? = some b then scan stops pending.tail (index + 1) rest
      else scan stops ((opens? stops pending b rest).toList ++ pending) (index + 1) rest := by
  rw [scan]
  split
  · rfl
  split
  · split <;> next found => rw [found]; rfl
  · rfl

theorem stopsAt_plain (pending : List Char) (c : Char) :
    (State.plain pending).stopsAt stops c = true ↔
      pending = [] ∧ Bracket.isStop stops c = true := by
  cases pending <;> simp [State.stopsAt]

theorem head?_map_toUInt8 (wellFormed : (State.plain pending).WellFormed) (ascii : Ascii c) :
    (pending.map Char.toUInt8).head? = some c.toUInt8 ↔ pending.head? = some c := by
  cases pending with
  | nil => simp
  | cons due pending =>
    have closes := wellFormed due List.mem_cons_self
    simp [toUInt8_inj (ascii_of_isCloser closes) ascii]

theorem ascii_of_isStop {c : Char} (isStop : Bracket.isStop stops c = true) : Ascii c := by
  simp only [Bracket.isStop, Bool.and_eq_true, decide_eq_true_eq] at isStop
  exact isStop.1

theorem ascii_of_isQuote {c : Char} (isQuote : Bracket.isQuote c = true) : Ascii c := by
  simp only [Bracket.isQuote, Bool.or_eq_true, decide_eq_true_eq] at isQuote
  rcases isQuote with rfl | rfl <;> decide

theorem scan_octets_stop {pending : List Char} {c : Char}
    (stop : (State.plain pending).stopsAt stops c = true) (index : Nat) (rest : List Char) :
    scan stops (pending.map Char.toUInt8) index (octets (c :: rest)) = some index := by
  obtain ⟨rfl, isStop⟩ := (stopsAt_plain pending c).mp stop
  have ascii := ascii_of_isStop isStop
  rw [octets_cons, utf8EncodeChar_of_ascii ascii, List.singleton_append, scan_cons,
    if_pos ⟨rfl, (isStop_toUInt8 ascii).trans isStop⟩]

/-- At an octet of an ASCII character that is no stop, the scan does what the
character calls for. -/
theorem scan_octets_ascii {pending : List Char} {c : Char}
    (wellFormed : (State.plain pending).WellFormed) (ascii : Ascii c)
    (goesOn : (State.plain pending).stopsAt stops c = false) (index : Nat) (rest : List Char) :
    scan stops (pending.map Char.toUInt8) index (octets (c :: rest)) =
      if Bracket.isQuote c then
        (skipQuoted c.toUInt8 (index + 1) (octets rest)).bind fun (after, left) =>
          scan stops (pending.map Char.toUInt8) after left
      else if pending.head? = some c then
        scan stops (pending.tail.map Char.toUInt8) (index + 1) (octets rest)
      else
        scan stops (((Bracket.opens? stops pending c rest).toList ++ pending).map Char.toUInt8)
          (index + 1) (octets rest) := by
  have noStop : ¬(pending.map Char.toUInt8 = [] ∧ isStop stops c.toUInt8 = true) := by
    rw [List.map_eq_nil_iff, isStop_toUInt8 ascii, ← stopsAt_plain, goesOn]
    exact Bool.false_ne_true
  rw [octets_cons, utf8EncodeChar_of_ascii ascii, List.singleton_append, scan_cons, if_neg noStop,
    isQuote_toUInt8 ascii, opens?_octets wellFormed ascii, List.map_append, Option.toList_map,
    List.map_tail]
  simp only [head?_map_toUInt8 wellFormed ascii]

/-- A quoted string is one step of the scan. -/
theorem scan_octets_quoted {pending : List Char} {quote : Char}
    (wellFormed : (State.plain pending).WellFormed) (isQuote : Bracket.isQuote quote = true)
    (ascii : Ascii quote) (goesOn : (State.plain pending).stopsAt stops quote = false)
    (index : Nat) (rest : List Char) :
    scan stops (pending.map Char.toUInt8) index (octets (quote :: rest)) =
      (quotedEnd? quote rest).bind fun (body, left) =>
        scan stops (pending.map Char.toUInt8) (index + utf8Length (quote :: body))
          (octets left) := by
  rw [scan_octets_ascii wellFormed ascii goesOn, if_pos isQuote, skipQuoted_octets ascii]
  cases quotedEnd? quote rest <;> simp [utf8Size_of_ascii ascii, Nat.add_assoc]

/-- Any other character is one step of the scan, as it is one of the walk. -/
theorem scan_octets_step {pending : List Char} {c : Char}
    (wellFormed : (State.plain pending).WellFormed)
    (goesOn : (State.plain pending).stopsAt stops c = false) (notQuote : ¬Bracket.isQuote c)
    (index : Nat) (rest : List Char) :
    ∃ after, (State.plain pending).next stops c rest = .plain after ∧
      scan stops (pending.map Char.toUInt8) index (octets (c :: rest)) =
        scan stops (after.map Char.toUInt8) (index + c.utf8Size) (octets rest) := by
  by_cases ascii : Ascii c
  · rw [scan_octets_ascii wellFormed ascii goesOn, if_neg notQuote, State.next_plain,
      if_neg notQuote, utf8Size_of_ascii ascii]
    split
    · exact ⟨_, rfl, rfl⟩
    · exact ⟨_, rfl, rfl⟩
  · refine ⟨pending, State.next_of_isOrdinary (isOrdinary_of_not_ascii ascii) wellFormed, ?_⟩
    rw [octets_cons, scan_high wellFormed fun b inside => high_of_mem ascii inside,
      String.length_utf8EncodeChar]

/-- A scan of the octets of a text finds the place where a walk of the text
ends. -/
theorem scan_octets {pending : List Char} (wellFormed : (State.plain pending).WellFormed)
    (index : Nat) (text : List Char) :
    scan stops (pending.map Char.toUInt8) index (octets text) =
      (walk? stops (.plain pending) text).map fun (taken, _) => index + utf8Length taken := by
  -- a quoted string is one step of the scan and many of the walk
  induction length : text.length using Nat.strong_induction_on generalizing pending index text with
  | _ size ih =>
    subst length
    cases text with
    | nil => cases pending <;> simp [scan, walk?]
    | cons c rest =>
      have shorter : rest.length < (c :: rest).length := by simp
      by_cases stop : (State.plain pending).stopsAt stops c = true
      · rw [walk?_of_stopsAt stop, scan_octets_stop stop]
        rfl
      have goesOn : (State.plain pending).stopsAt stops c = false := by simpa using stop
      rw [walk?_of_not_stopsAt goesOn]
      by_cases isQuote : Bracket.isQuote c = true
      · rw [scan_octets_quoted wellFormed isQuote (ascii_of_isQuote isQuote) goesOn,
          State.next_plain, if_pos isQuote, walk?_quoted]
        cases found : quotedEnd? c rest with
        | none => rfl
        | some both =>
          rcases both with ⟨body, left⟩
          have leftShorter : left.length < (c :: rest).length := by
            simp only [quotedEnd?_eq_some found, List.length_cons, List.length_append]
            omega
          simp only [Option.bind_some, ih _ leftShorter wellFormed _ left rfl]
          simp [Function.comp_def, Nat.add_assoc]
      · obtain ⟨after, next, scanned⟩ := scan_octets_step wellFormed goesOn isQuote index rest
        have afterWellFormed : (State.plain after).WellFormed := next ▸ wellFormed.next
        rw [next, scanned, ih _ shorter afterWellFormed _ rest rfl]
        simp [Function.comp_def, Nat.add_assoc]

/-- A scan finds the place where the text up to the first stop ends. -/
theorem scanTo?_eq (text : String) (stops : List Char) :
    scanTo? text stops = Bracket.scanTo? text stops := by
  have scanned : scan stops [] 0 (octets text.toList) =
      (cut? stops text.toList).map fun (taken, _) => utf8Length taken := by
    simpa [cut?] using scan_octets State.wellFormed_initial 0 text.toList
  rw [scanTo?, Bracket.scanTo?, ← scanned, ← octetsOf_ofList, String.ofList_toList]

/-- A scan of the octets ends where the walk of the characters ends or fails where it
fails. The place is a boundary of characters: it is the end of the text, or a stop
stands there. -/
theorem scanTo?_stopsAt (text : String) (stops : List Char) :
    scanTo? text stops = Bracket.scanTo? text stops ∧
      ∀ place, scanTo? text stops = some place →
        String.Pos.Raw.IsValid text ⟨place⟩ ∧
          (place = text.utf8ByteSize ∨
            ∃ stop ∈ stops, slice? text place (place + 1) = some (.ofList [stop])) := by
  refine ⟨scanTo?_eq text stops, fun place scanned => ?_⟩
  rw [scanTo?_eq, Bracket.scanTo?, Option.map_eq_some_iff] at scanned
  obtain ⟨⟨taken, left⟩, found, rfl⟩ := scanned
  have whole : text = .ofList (taken ++ left) := by
    rw [← cut?_eq_some found, String.ofList_toList]
  subst whole
  refine ⟨isValid_append taken left, ?_⟩
  rcases cut?_stop found with rfl | ⟨stop, after, rfl, isStop⟩
  · exact .inl (by rw [List.append_nil, utf8ByteSize_ofList])
  · have size : utf8Length [stop] = 1 := utf8Size_of_ascii (ascii_of_isStop isStop)
    have sliced := slice?_append taken [stop] after
    rw [size] at sliced
    exact .inr ⟨stop, mem_of_isStop isStop, sliced⟩

/-- An escape in front of a character of two octets, and a stop beyond ASCII that
never matches. -/
theorem scanTo?_stopsAt_escape :
    scanTo? "é'\\é,'é, b" [',', 'é'] = some 10 ∧
      String.Pos.Raw.IsValid "é'\\é,'é, b" ⟨10⟩ ∧
      (10 = "é'\\é,'é, b".utf8ByteSize ∨
        ∃ stop ∈ [',', 'é'], slice? "é'\\é,'é, b" 10 (10 + 1) = some (.ofList [stop])) := by
  have walked : Bracket.scanTo? "é'\\é,'é, b" [',', 'é'] = some 10 := by decide +kernel
  obtain ⟨same, ends⟩ := scanTo?_stopsAt "é'\\é,'é, b" [',', 'é']
  exact ⟨same.trans walked, ends 10 (same.trans walked)⟩

/-! ## What a scan depends on -/

/-- Where a text is cut, the place is the number of octets in front. -/
theorem scanTo?_of_cut? {text : String} {taken left : List Char}
    (found : cut? stops text.toList = some (taken, left)) :
    Bracket.scanTo? text stops = some (utf8Length taken) := by
  rw [Bracket.scanTo?, found, Option.map_some]

/-- A scan depends on the text up to its stop alone: it ends at the same place when any other
text comes behind the stop, and when the text is over there. A scan that meets no stop ends
where it did when a stop comes behind the text, unless the stop is a `>`. -/
theorem scanTo?_local {text : String} {stops : List Char} {place : Nat}
    (scanned : Bracket.scanTo? text stops = some place) :
    (place < text.utf8ByteSize → ∃ before upTo,
      slice? text 0 place = some before ∧ slice? text 0 (place + 1) = some upTo ∧
      Bracket.scanTo? before stops = some place ∧
      ∀ other, Bracket.scanTo? (upTo ++ other) stops = some place) ∧
    (place = text.utf8ByteSize → ∀ stop ∈ stops, Ascii stop → stop ≠ '>' →
      ∀ other, Bracket.scanTo? (text ++ .singleton stop ++ other) stops = some place) := by
  obtain ⟨⟨taken, left⟩, found, rfl⟩ := Option.map_eq_some_iff.mp scanned
  have whole : text = .ofList (taken ++ left) := by
    rw [← cut?_eq_some found, String.ofList_toList]
  subst whole
  rw [String.toList_ofList] at found
  have alone := cut?_taken found
  refine ⟨fun inside => ?_, fun atEnd stop isStop ascii notClose other => ?_⟩
  · rcases cut?_stop found with rfl | ⟨stop, after, rfl, isStop⟩
    · simp [utf8ByteSize_ofList] at inside
    have size : utf8Length [stop] = 1 := utf8Size_of_ascii (ascii_of_isStop isStop)
    have before := slice?_append [] taken (stop :: after)
    have upTo := slice?_append [] (taken ++ [stop]) after
    rw [utf8Length_nil, Nat.zero_add, List.nil_append] at before upTo
    rw [utf8Length_append, size, List.append_assoc, List.singleton_append] at upTo
    refine ⟨_, _, before, upTo, ?_, fun other => ?_⟩
    · have walked : cut? stops (String.ofList taken).toList = some (taken, []) := by
        rwa [String.toList_ofList]
      exact scanTo?_of_cut? walked
    · have replaced : cut? stops (taken ++ stop :: other.toList) =
          some (taken, stop :: other.toList) := cut?_replaceRest found
      exact scanTo?_of_cut? (by simpa using replaced)
  · have nothingLeft : left = [] := by
      by_contra more
      have pos := utf8Length_pos more
      simp only [utf8ByteSize_ofList, utf8Length_append] at atEnd
      omega
    subst nothingLeft
    have ends : Ends stops (stop :: other.toList) := by
      have low : stop.toNat < 128 := ascii
      simp [Ends, Bracket.isStop, isStop, low]
    have longer := cut?_append_ends alone ends (by simpa using notClose)
    exact scanTo?_of_cut? (by simpa using longer)

/-- In the first text a `<` is a comparison, with a `>` behind the stop. In the second one the
bracket around the `<` settles it, and no stop is met. -/
theorem scanTo?_local_comparison :
    (Bracket.scanTo? "n<2, b=<no value>" [','] = some 3 ∧ 3 < "n<2, b=<no value>".utf8ByteSize ∧
      ∀ other, Bracket.scanTo? ("n<2," ++ other) [','] = some 3) ∧
    (Bracket.scanTo? "f(a<é)" [','] = some 7 ∧ 7 = "f(a<é)".utf8ByteSize ∧
      ∀ other, Bracket.scanTo? ("f(a<é)" ++ "," ++ other) [','] = some 7) := by
  have stopped : Bracket.scanTo? "n<2, b=<no value>" [','] = some 3 := by decide +kernel
  have inside : 3 < "n<2, b=<no value>".utf8ByteSize := by decide +kernel
  have whole : Bracket.scanTo? "f(a<é)" [','] = some 7 := by decide +kernel
  have size : 7 = "f(a<é)".utf8ByteSize := by decide +kernel
  obtain ⟨before, upTo, -, sliced, -, replaced⟩ := (scanTo?_local stopped).1 inside
  have known : slice? "n<2, b=<no value>" 0 (3 + 1) = some "n<2," := by decide +kernel
  obtain rfl : upTo = "n<2," := Option.some.inj (sliced.symm.trans known)
  exact ⟨⟨stopped, inside, replaced⟩, whole, size,
    (scanTo?_local whole).2 size ',' (by decide) (by decide) (by decide)⟩

/-- A `>` that is a stop tells a `<` in front of it that it opens. -/
example : Bracket.scanTo? "a<b" ['>'] = some 3 ∧ Bracket.scanTo? "a<b>" ['>'] = some 4 := by
  decide +kernel

end CallSig.Octet
