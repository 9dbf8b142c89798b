import CallSig.Command.Line

/-!
# Command lines piece by piece

A command line that is accepted is a sequence of pieces, each of one or two words:
a signature, a flag, or an option and its value (`Takes`). `Reads` strings the
pieces together, and `readWords_eq_run_iff` says that these are all command lines
that are accepted.

A piece looks only at what the pieces before it have set. So pieces that name no
source of signatures are read alike with a source and without one
(`Reads.withSource`), and words that name one may be put anywhere between them.
-/

namespace CallSig.Command

/-! ## One piece -/

/-- The words are one piece of a command line, which changes the options so. -/
inductive Takes : Options → List String → Options → Prop
  | signature {options : Options} {word text : String} : Word.ofText word = .signature text →
    Takes options [word] (options.addSignature text)
  | shape {options : Options} {word : String} : Word.ofText word = .option (.flag .shape) none →
    options.shape = false → Takes options [word] { options with shape := true }
  | listFormats {options : Options} {word : String} :
    Word.ofText word = .option (.flag .listFormats) none → options.listFormats = false →
    Takes options [word] { options with listFormats := true }
  | joined {options next : Options} {word value : String} {key : Valued} :
    Word.ofText word = .option (.valued key) (some value) →
    options.setValue key value = some next → Takes options [word] next
  | apart {options next : Options} {word value : String} {key : Valued} :
    Word.ofText word = .option (.valued key) none → looksLikeOption value = false →
    options.setValue key value = some next → Takes options [word, value] next

/-- The words are pieces of a command line, up to a word behind which there are
signatures alone. -/
inductive Reads : Options → List String → Options → Prop
  | done {options : Options} : Reads options [] options
  | ended {options : Options} {word : String} {rest : List String} :
    Word.ofText word = .endOfOptions →
    Reads options (word :: rest) { options with signatures := options.signatures ++ rest }
  | step {options next final : Options} {words rest : List String} : Takes options words next →
    Reads next rest final → Reads options (words ++ rest) final

variable {options next final mid : Options} {words first rest : List String}

theorem Takes.readWords_append (takes : Takes options words next) (rest : List String) :
    readWords options (words ++ rest) = readWords next rest := by
  cases takes with
  | signature meaning => simp [readWords, meaning]
  | shape meaning unset => simp [readWords, meaning, unset]
  | listFormats meaning unset => simp [readWords, meaning, unset]
  | joined meaning set => simp [readWords, meaning, set]
  | apart meaning value set => simp [readWords, meaning, value, set]

theorem Reads.readWords_eq (reads : Reads options words final) :
    readWords options words = .run final := by
  induction reads with
  | done => rw [readWords]
  | ended meaning =>
    rw [readWords, meaning]
    rfl
  | step takes _ ih => rw [takes.readWords_append, ih]

/-- Words that are accepted are read word by word. -/
theorem reads_of_readWords (read : readWords options words = .run final) :
    Reads options words final := by
  fun_induction readWords options words with
  | case1 options =>
    cases read
    exact .done
  | case2 options word rest meaning =>
    cases read
    exact .ended meaning
  | case3 options word rest text meaning ih => exact .step (.signature meaning) (ih read)
  | case9 options word rest meaning unset ih =>
    exact .step (.shape meaning (by simpa using unset)) (ih read)
  | case11 options word rest meaning unset ih =>
    exact .step (.listFormats meaning (by simpa using unset)) (ih read)
  | case12 options word rest key value meaning next set ih =>
    exact .step (.joined meaning set) (ih read)
  | case16 options word key meaning value rest notOption next set ih =>
    exact .step (.apart meaning (by simpa using notOption) set) (ih read)
  | _ => cases read

/-- The command lines that are accepted are sequences of pieces. -/
theorem readWords_eq_run_iff : readWords options words = .run final ↔ Reads options words final :=
  ⟨reads_of_readWords, Reads.readWords_eq⟩

/-! ## Words put together -/

theorem eq_of_endOfOptions {word : String} (meaning : Word.ofText word = .endOfOptions) :
    word = "--" := by
  unfold Word.ofText at meaning
  split at meaning
  · next chars => rw [← String.ofList_toList (s := word), chars]
  · simp only [longOption] at meaning
    split at meaning <;> cases meaning
  · cases meaning
  · split at meaning <;> cases meaning
  · cases meaning

/-- Behind words that are complete, and end no options, a command line goes on
from the options that they set. -/
theorem Reads.readWords_append (reads : Reads options first mid) (unended : "--" ∉ first)
    (rest : List String) : readWords options (first ++ rest) = readWords mid rest := by
  induction reads with
  | done => rfl
  | ended meaning =>
    rw [eq_of_endOfOptions meaning] at unended
    exact absurd List.mem_cons_self unended
  | step takes _ ih =>
    rw [List.mem_append, not_or] at unended
    rw [List.append_assoc, takes.readWords_append, ih unended.2]

/-- Words behind words that do not end the options are read with what these set. -/
theorem Reads.append (reads : Reads options first mid) (unended : "--" ∉ first)
    (behind : Reads mid rest final) : Reads options (first ++ rest) final := by
  rw [← readWords_eq_run_iff, reads.readWords_append unended, behind.readWords_eq]

/-- What a command line asks for is what its pieces say. -/
theorem reads_of_ofWords (asks : Request.ofWords words = .run final) :
    Reads .none words final := by
  rw [Request.ofWords] at asks
  split at asks
  · next read =>
    split at asks
    · cases asks
    · cases asks
      exact reads_of_readWords read
  · next other => exact absurd asks (other final)

/-- Words that name one source at most are a request. -/
theorem Reads.ofWords_eq (reads : Reads .none words final)
    (oneSource : final.file = none ∨ final.signatures = []) :
    Request.ofWords words = .run final := by
  rw [Request.ofWords, reads.readWords_eq]
  rcases oneSource with noFile | noSignatures
  · simp [noFile]
  · simp [noSignatures]

/-! ## Words that name no source -/

/-- Neither signatures nor a file that holds them are given. -/
structure Options.Sourceless (options : Options) : Prop where
  signatures : options.signatures = []
  file : options.file = .none

/-- The options with this source of signatures. -/
def Options.withSource (options : Options) (file : Option String) (signatures : List String) :
    Options :=
  { options with file := file, signatures := signatures }

/-- A value that names no source is set alike with and without one. -/
theorem Options.setValue_withSource {key : Valued} {value : String}
    (set : options.setValue key value = some next) (sourceless : next.Sourceless) :
    options.Sourceless ∧ ∀ file signatures,
      (options.withSource file signatures).setValue key value =
        some (next.withSource file signatures) := by
  rcases sourceless with ⟨noSignatures, noFile⟩
  cases key with
  | file =>
    rw [setValue] at set
    split at set
    · cases set
    · cases set
      cases noFile
  | format | config =>
    rw [setValue] at set
    split at set
    · cases set
    · next unset =>
      cases set
      refine ⟨⟨noSignatures, noFile⟩, fun file signatures => ?_⟩
      rw [setValue, withSource, if_neg unset]
      rfl

/-- A piece that names no source is one with and without a source in front. -/
theorem Takes.withSource (takes : Takes options words next) (sourceless : next.Sourceless) :
    options.Sourceless ∧ ∀ file signatures,
      Takes (options.withSource file signatures) words (next.withSource file signatures) := by
  cases takes with
  | signature =>
    have noSignatures := sourceless.signatures
    simp [Options.addSignature] at noSignatures
  | shape meaning unset =>
    exact ⟨⟨sourceless.signatures, sourceless.file⟩, fun _ _ => .shape meaning unset⟩
  | listFormats meaning unset =>
    exact ⟨⟨sourceless.signatures, sourceless.file⟩, fun _ _ => .listFormats meaning unset⟩
  | joined meaning set =>
    obtain ⟨before, kept⟩ := Options.setValue_withSource set sourceless
    exact ⟨before, fun file signatures => .joined meaning (kept file signatures)⟩
  | apart meaning value set =>
    obtain ⟨before, kept⟩ := Options.setValue_withSource set sourceless
    exact ⟨before, fun file signatures => .apart meaning value (kept file signatures)⟩

/-- Words that name no source are read alike with and without a source in
front of them. -/
theorem Reads.withSource (reads : Reads options words final) (sourceless : final.Sourceless) :
    options.Sourceless ∧ ∀ file signatures,
      Reads (options.withSource file signatures) words (final.withSource file signatures) := by
  -- A source is never taken back, so there is none before a piece when there is none behind it.
  induction reads with
  | done => exact ⟨sourceless, fun _ _ => .done⟩
  | @ended options word rest meaning =>
    obtain ⟨noSignatures, noRest⟩ := List.append_eq_nil_iff.mp sourceless.signatures
    subst noRest
    refine ⟨⟨noSignatures, sourceless.file⟩, fun file signatures => ?_⟩
    have ended := @Reads.ended (options.withSource file signatures) word [] meaning
    simpa [Options.withSource] using ended
  | step takes _ ih =>
    obtain ⟨middle, behind⟩ := ih sourceless
    obtain ⟨before, piece⟩ := takes.withSource middle
    exact ⟨before, fun file signatures => .step (piece file signatures) (behind file signatures)⟩

/-! ## Words that name a source -/

/-- Without a dash in front a word may be a signature or a value. -/
theorem looksLikeOption_of_head? {text : String} (noDash : text.toList.head? ≠ some '-') :
    looksLikeOption text = false := by
  unfold looksLikeOption
  split
  · next chars =>
    rw [chars] at noDash
    exact absurd rfl noDash
  · rfl

theorem Word.ofText_eq_signature {text : String} (notOption : looksLikeOption text = false) :
    Word.ofText text = .signature text := by
  unfold looksLikeOption at notOption
  unfold Word.ofText
  split at notOption
  · cases notOption
  · next other =>
    split
    · next chars => exact absurd chars (other _ _)
    · next chars => exact absurd chars (other _ _)
    · rfl
    · next chars => exact absurd chars (other _ _)
    · rfl

/-- Words that do not look like options are signatures. -/
theorem Reads.signatures (notOptions : ∀ word ∈ words, looksLikeOption word = false)
    (behind : Reads { options with signatures := options.signatures ++ words } rest final) :
    Reads options (words ++ rest) final := by
  induction words generalizing options with
  | nil => simpa using behind
  | cons word words ih =>
    rw [List.forall_mem_cons] at notOptions
    have later : Reads (options.addSignature word) (words ++ rest) final :=
      ih notOptions.2 (by simpa [Options.addSignature] using behind)
    show Reads options ([word] ++ (words ++ rest)) final
    exact .step (.signature (Word.ofText_eq_signature notOptions.1)) later

/-- The words name a file of signatures. -/
inductive NamesFile (path : String) : List String → Prop
  | apart : looksLikeOption path = false → NamesFile path ["--file", path]
  | joined : NamesFile path ["--file=" ++ path]
  | shortApart : looksLikeOption path = false → NamesFile path ["-f", path]
  | shortJoined : NamesFile path ["-f=" ++ path]
  | shortDirect : path ≠ "" → path.toList.head? ≠ some '=' → NamesFile path ["-f" ++ path]

theorem Word.ofText_longFile (path : String) :
    Word.ofText ("--file=" ++ path) = .option (.valued .file) (some path) := by
  have found : longNames.lookup "file" = some (.valued .file) := by decide
  simp [Word.ofText, longOption, found]

/-- A file right behind the letter of its option, as far as one stands there. -/
theorem Word.ofText_shortFile (value : String) :
    Word.ofText ("-f" ++ value) = .option (.valued .file) (attached value.toList) := by
  have found : shortNames.lookup 'f' = some (.valued .file) := by decide
  simp [Word.ofText, found]

/-- What stands behind the letter of an option is its value. -/
theorem attached_eq_some {value : String} (nonempty : value ≠ "")
    (noMark : value.toList.head? ≠ some '=') : attached value.toList = some value := by
  unfold attached
  split
  · next chars => exact absurd (String.toList_eq_nil_iff.mp chars) nonempty
  · next chars =>
    rw [chars] at noMark
    exact absurd rfl noMark
  · rw [String.ofList_toList]

/-- Words that name a file set it. -/
theorem NamesFile.takes {path : String} (names : NamesFile path words)
    (noFile : options.file = none) : Takes options words { options with file := some path } := by
  have set : options.setValue .file path = some { options with file := some path } := by
    simp [Options.setValue, noFile]
  cases names with
  | apart value => exact .apart rfl value set
  | joined => exact .joined (Word.ofText_longFile path) set
  | shortApart value => exact .apart rfl value set
  | shortJoined =>
    have meaning := Word.ofText_shortFile ("=" ++ path)
    have value : attached ("=" ++ path).toList = some path := by simp [attached]
    rw [value, ← String.append_assoc] at meaning
    exact .joined meaning set
  | shortDirect nonempty noMark =>
    exact .joined ((Word.ofText_shortFile path).trans (by rw [attached_eq_some nonempty noMark])) set

end CallSig.Command
