import CallSig.Command.Run
import CallSig.Proofs.Command.Line
import CallSig.Proofs.Files
import CallSig.Proofs.Settings.Tree

/-!
# Where the signatures of a run come from

A run takes its signatures from a file, from standard input or from the command
line itself. `run_of_sources` says that these are interchangeable: with the same
settings and the same signatures a run leaves the same things behind. The settings
do not depend on the source, in whatever way they are loaded, and a source is looked
at only for its signatures (`report_congr`).
-/

namespace CallSig.Command

variable {load : LoadSettings} {options other : Options} {world there : World}
  {front back words : List String} {path source mark : String}

/-! ## The signatures of a source -/

/-- The signatures of a text, by its characters. -/
theorem signatureLines_eq (source mark : String) :
    signatureLines source mark =
      (((source.toList.splitOn '\n').map Text.trim).filter fun line =>
        !line.isEmpty && !isComment mark.toList line).map String.ofList := by
  have lines : source.splitOn "\n" = (source.toList.splitOn '\n').map String.ofList :=
    Text.splitOn_singleton source '\n'
  simp [signatureLines, lines, Function.comp_def]

/-- The signatures of a file are the lines of its text. -/
theorem signaturesFor_file (holds : world.files path = .file source.toUTF8) (options : Options)
    (mark : String) :
    signaturesFor (options.withSource (some path) []) world mark =
      .ok (signatureLines source mark) := by
  have read : world.files.readText path = .ok source := by
    rw [Files.readText, holds]
    exact textOfBytes_toUTF8 source
  simp only [signaturesFor, Options.withSource, read]
  rfl

/-- Without another source the signatures are the lines of standard input. -/
theorem signaturesFor_input (sourceless : options.Sourceless) (world : World) (mark : String) :
    signaturesFor options { world with input := source.toUTF8 } mark =
      .ok (signatureLines source mark) := by
  simp only [signaturesFor, sourceless.signatures, sourceless.file, textOfBytes_toUTF8]
  rfl

/-- Signatures on the command line are taken as they are. -/
theorem signaturesFor_words {signatures : List String} (nonempty : signatures ≠ [])
    (options : Options) (world : World) (mark : String) :
    signaturesFor (options.withSource none signatures) world mark = .ok signatures := by
  cases signatures with
  | nil => exact absurd rfl nonempty
  | cons first rest => rfl

/-! ## Runs with the same settings and signatures -/

/-- A command line that asks for a report gets it. -/
theorem runWith_of_ofWords (asks : Request.ofWords words = .run options)
    (reports : options.listFormats = false) (load : LoadSettings) (world : World) :
    runWith load words world = report load options world := by
  rw [runWith, asks]
  simp only [reports, Bool.false_eq_true, if_false]

/-- A run leaves the same things behind when its settings and its signatures are
the same. -/
theorem report_congr
    (sameSettings : options.settings load world.files = other.settings load there.files)
    (sameFilter : world.logFilter = there.logFilter)
    (sameSignatures : ∀ settings, options.settings load world.files = .ok settings →
      signaturesFor options world settings.commentMark =
        signaturesFor other there settings.commentMark) :
    report load options world = report load other there := by
  rw [report, report, ← sameSettings]
  cases found : options.settings load world.files with
  | error error => rfl
  | ok settings =>
    simp only [sameSignatures settings found, sameFilter]

/-- The settings do not depend on the source of the signatures. -/
theorem Options.settings_withSource (options : Options) (file : Option String)
    (signatures : List String) (load : LoadSettings) (files : Files) :
    (options.withSource file signatures).settings load files = options.settings load files := rfl

/-! ## Command lines with a source -/

/-- The words set options for a report and name no source of signatures; between
`front` and `back`, where no option waits for its value, words may be put that do. -/
structure OnlySettings (front back : List String) (options : Options) : Prop where
  asks : Request.ofWords (front ++ back) = .run options
  sourceless : options.Sourceless
  reports : options.listFormats = false
  complete : ∃ before, Request.ofWords front = .run before
  unended : "--" ∉ front

/-- Words that name a source are put between words that do not. -/
theorem OnlySettings.ofWords_insert (settings : OnlySettings front back options)
    {file : Option String} {signatures : List String}
    (insert : ∀ {before rest final}, before.Sourceless →
      Reads (before.withSource file signatures) rest final → Reads before (words ++ rest) final)
    (oneSource : file = none ∨ signatures = []) :
    Request.ofWords (front ++ (words ++ back)) = .run (options.withSource file signatures) := by
  obtain ⟨before, complete⟩ := settings.complete
  -- `back` goes on from what `front` has set, and reads on alike with the source set there.
  have readFront := reads_of_ofWords complete
  have readAll := (reads_of_ofWords settings.asks).readWords_eq
  rw [readFront.readWords_append settings.unended] at readAll
  obtain ⟨sourceless, behind⟩ := (reads_of_readWords readAll).withSource settings.sourceless
  have whole := readFront.append settings.unended (insert sourceless (behind file signatures))
  exact whole.ofWords_eq oneSource

/-- Words that name a file are put between them. -/
theorem OnlySettings.ofWords_file (settings : OnlySettings front back options)
    (names : NamesFile path words) :
    Request.ofWords (front ++ (words ++ back)) = .run (options.withSource (some path) []) := by
  refine settings.ofWords_insert (fun {before _ _} sourceless behind => ?_) (.inr rfl)
  have set : before.withSource (some path) [] = { before with file := some path } := by
    rw [Options.withSource, sourceless.signatures]
  rw [set] at behind
  exact .step (names.takes sourceless.file) behind

/-- Words that are signatures are put between them. -/
theorem OnlySettings.ofWords_signatures (settings : OnlySettings front back options)
    (notOptions : ∀ word ∈ words, looksLikeOption word = false) :
    Request.ofWords (front ++ (words ++ back)) = .run (options.withSource none words) := by
  refine settings.ofWords_insert (fun {before _ _} sourceless behind => ?_) (.inl rfl)
  have added : before.withSource none words =
      { before with signatures := before.signatures ++ words } := by
    rw [Options.withSource, sourceless.signatures, sourceless.file, List.nil_append]
  rw [added] at behind
  exact .signatures notOptions behind

/-- A run on a file, on standard input and on the lines of either as words of the
command line leaves the same output, the same log and the same ending behind, in
whatever way settings are loaded. -/
theorem run_of_sources (load : LoadSettings) (settings : OnlySettings front back options)
    (source : String) (world : World) :
    (∀ path words, world.files path = .file source.toUTF8 → NamesFile path words →
      runWith load (front ++ (words ++ back)) world =
        runWith load (front ++ back) { world with input := source.toUTF8 }) ∧
    ∀ loaded, options.settings load world.files = .ok loaded →
      signatureLines source loaded.commentMark ≠ [] →
      (∀ line ∈ signatureLines source loaded.commentMark, line.toList.head? ≠ some '-') →
      runWith load (front ++ (signatureLines source loaded.commentMark ++ back)) world =
        runWith load (front ++ back) { world with input := source.toUTF8 } := by
  have input := runWith_of_ofWords settings.asks settings.reports load
    { world with input := source.toUTF8 }
  constructor
  · intro path words holds names
    rw [input, runWith_of_ofWords (settings.ofWords_file names) settings.reports]
    refine report_congr rfl rfl fun loaded _ => ?_
    rw [signaturesFor_file holds, signaturesFor_input settings.sourceless]
  · intro loaded found nonempty noDash
    have notOptions : ∀ line ∈ signatureLines source loaded.commentMark,
        looksLikeOption line = false :=
      fun line inside => looksLikeOption_of_head? (noDash line inside)
    rw [input, runWith_of_ofWords (settings.ofWords_signatures notOptions) settings.reports]
    refine report_congr rfl rfl fun again same => ?_
    rw [options.settings_withSource, found, Except.ok.injEq] at same
    subst same
    rw [signaturesFor_words nonempty, signaturesFor_input settings.sourceless]

/-! ## Without files of settings -/

/-- Without files of settings the defaults count, and the options over them. -/
theorem settings_of_noFile {files : Files}
    (noFile : Settings.findFile? files Settings.localFile = none)
    (noConfig : options.config = none) :
    options.settings settingsFor files =
      .ok ⟨"#", options.format.getD "json", options.shape⟩ := by
  have loaded (overrides : List (Settings.KeyPath × Settings.Value))
      (fits : ∀ entry ∈ overrides, entry.1.HasRoom Settings.Machine.usual.room)
      (loader : loaderFor options.config options.format options.shape =
        .ok ⟨Settings.Loader.discover.layers, overrides⟩) :
      options.settings settingsFor files = Settings.ofValue
        (overrides.foldl (fun root entry => entry.1.set root entry.2) Settings.defaults) := by
    rw [Options.settings, settingsFor, loader]
    exact Settings.build_of_noFile noFile fits
  have formatFits := Settings.Setting.format.path_hasRoom Settings.Machine.usual.room
  have shapeFits := Settings.Setting.shape.path_hasRoom Settings.Machine.usual.room
  rcases options with ⟨signatures, file, _ | format, config, _ | _, listFormats⟩ <;> cases noConfig
  · exact loaded [] (List.forall_mem_nil _) rfl
  · rw [loaded [([.field "output", .field "shape"], .byHand (.bool true))]
      (List.forall_mem_singleton.mpr shapeFits) rfl]
    simp only [Settings.defaults_eq, List.foldl_cons, Settings.set_shape_toValue]
    exact Settings.ofValue_toValue _
  · rw [loaded [([.field "output", .field "format"], .byHand (.text format))]
      (List.forall_mem_singleton.mpr formatFits) rfl]
    simp only [Settings.defaults_eq, List.foldl_cons, Settings.set_format_toValue]
    exact Settings.ofValue_toValue _
  · rw [loaded [([.field "output", .field "format"], .byHand (.text format)),
        ([.field "output", .field "shape"], .byHand (.bool true))]
      (List.forall_mem_cons.mpr ⟨formatFits, List.forall_mem_singleton.mpr shapeFits⟩) rfl]
    simp only [Settings.defaults_eq, List.foldl_cons, Settings.set_format_toValue,
      Settings.set_shape_toValue]
    exact Settings.ofValue_toValue _

/-- A file with a comment, blanks, both line ends and a star, named between two
options. -/
theorem run_of_sources_shape :
    OnlySettings ["--shape"] ["-F", "text"] ⟨[], none, some "text", none, true, false⟩ ∧
    run ["--shape", "--file", "s.txt", "-F", "text"]
        ⟨.empty, oneFile "s.txt" "# n\n (a) \r\n\n(b, *c)", none⟩ =
      run ["--shape", "-F", "text"]
        ⟨"# n\n (a) \r\n\n(b, *c)".toUTF8, oneFile "s.txt" "# n\n (a) \r\n\n(b, *c)", none⟩ ∧
    run ["--shape", "(a)", "(b, *c)", "-F", "text"]
        ⟨.empty, oneFile "s.txt" "# n\n (a) \r\n\n(b, *c)", none⟩ =
      run ["--shape", "-F", "text"]
        ⟨"# n\n (a) \r\n\n(b, *c)".toUTF8, oneFile "s.txt" "# n\n (a) \r\n\n(b, *c)", none⟩ := by
  have settings : OnlySettings ["--shape"] ["-F", "text"]
      ⟨[], none, some "text", none, true, false⟩ :=
    ⟨by decide +kernel, ⟨rfl, rfl⟩, rfl, ⟨_, rfl⟩, by decide⟩
  have isSource : IsFileName "s.txt" := ⟨by decide, by decide, by decide⟩
  have isLocal : IsFileName Settings.localFile := ⟨by decide, by decide, by decide⟩
  have isFallback : IsFileName "pysig.toml.toml" := ⟨by decide, by decide, by decide⟩
  have candidates : Settings.fallbackPath? Settings.localFile = some "pysig.toml.toml" := by
    rw [Settings.fallbackPath?, isLocal.pathParts_eq]
    decide +kernel
  have lines : signatureLines "# n\n (a) \r\n\n(b, *c)" "#" = ["(a)", "(b, *c)"] := by
    rw [signatureLines_eq]
    decide +kernel
  have holds : oneFile "s.txt" "# n\n (a) \r\n\n(b, *c)" "s.txt" =
      .file "# n\n (a) \r\n\n(b, *c)".toUTF8 := by
    rw [oneFile_eq isSource isSource, if_pos rfl]
  obtain ⟨byFile, byWords⟩ := run_of_sources settingsFor settings "# n\n (a) \r\n\n(b, *c)"
    ⟨.empty, oneFile "s.txt" "# n\n (a) \r\n\n(b, *c)", none⟩
  have noFile : Settings.findFile? (oneFile "s.txt" "# n\n (a) \r\n\n(b, *c)")
      Settings.localFile = none :=
    Settings.findFile?_oneFile isSource isLocal isFallback candidates (by decide) (by decide)
  have words := byWords _ (settings_of_noFile noFile rfl)
  rw [lines] at words
  exact ⟨settings, byFile _ _ holds (.apart rfl), words (by decide) (by decide)⟩

end CallSig.Command
