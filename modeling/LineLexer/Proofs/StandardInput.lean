import LineLexer.Proofs.Reports
import Mathlib.Data.List.SplitBy

set_option autoImplicit false

namespace LineLexer

inductive ReportPart where
  | plain (text : Text)
  | header
  | arrow (margin : Nat) (start : Option Position)
  deriving DecidableEq, Repr

namespace ReportPart

def place : Option Position → Text
  | none => []
  | some start => ':' :: Numeral.int start.line ++ ':' :: Numeral.int start.column

def fill (name : Text) : ReportPart → Text
  | plain text => text
  | header => "Scan ".toList ++ name ++ ['\n']
  | arrow margin start => Text.spaces margin ++ "--> ".toList ++ name ++ place start

def fillAll (name : Text) (parts : List ReportPart) : Text :=
  parts.flatMap (fill name)

end ReportPart

def NamesInPlace (report : Text → Text) : Prop :=
  ∃ parts, ∀ name, report name = ReportPart.fillAll name parts

namespace NamesInPlace

theorem part (part : ReportPart) : NamesInPlace fun name => part.fill name :=
  ⟨[part], fun name => by simp [ReportPart.fillAll]⟩

theorem text (text : Text) : NamesInPlace fun _ => text :=
  part (.plain text)

theorem append {first second : Text → Text} (left : NamesInPlace first)
    (right : NamesInPlace second) : NamesInPlace fun name => first name ++ second name := by
  obtain ⟨front, left⟩ := left
  obtain ⟨back, right⟩ := right
  exact ⟨front ++ back, fun name => by simp [left, right, ReportPart.fillAll]⟩

theorem flatMap {A : Type} (items : List A) {report : A → Text → Text}
    (each : ∀ item, NamesInPlace (report item)) :
    NamesInPlace fun name => items.flatMap fun item => report item name := by
  induction items with
  | nil => exact text []
  | cons item rest ih => simpa using (each item).append ih

theorem excerpt (excerpt : Excerpt) (source : Text) :
    NamesInPlace fun file => excerpt.render source file := by
  let arrow : ReportPart :=
    .arrow ((Numeral.int excerpt.start.line).length + 1) (some excerpt.start)
  let below : Text := '\n' :: excerpt.margin ++ "|\n".toList ++ excerpt.sourceLine source ++
    '\n' :: excerpt.underline
  have shape (file : Text) : excerpt.render source file =
      (excerpt.headline ++ ['\n']) ++ arrow.fill file ++ below := by
    simp [Excerpt.render, Excerpt.location, Excerpt.margin, arrow, below, ReportPart.fill,
      ReportPart.place]
  simp only [shape]
  exact ((text _).append (part arrow)).append (text below)

theorem inputError (error : InputError) (source : Text) :
    NamesInPlace fun file => error.render source file := by
  cases error with
  | empty =>
    let headline : Text := "error: ".toList ++ InputError.empty.message ++ ['\n']
    have line : "\n  --> ".toList = ['\n'] ++ Text.spaces 2 ++ "--> ".toList := by decide
    have shape (file : Text) : InputError.empty.render source file =
        headline ++ (ReportPart.arrow 2 none).fill file := by
      unfold InputError.render renderError
      simp only [InputError.position, line, headline, ReportPart.fill, ReportPart.place,
        List.append_assoc, List.append_nil]
    simp only [shape]
    exact (text headline).append (part _)
  | nul position => exact excerpt _ source

theorem dump (scanner : Scanner) : NamesInPlace fun file => { scanner with file }.dump := by
  let below : Text := scanner.tokens.flatMap Scanner.dumpToken ++ "Declared: ".toList ++
    Scanner.dumpNames scanner.context.declared ++ ['\n'] ++ "Diagnostics: ".toList ++
    Numeral.nat scanner.diagnostics.length ++ ['\n']
  have shape (file : Text) :
      { scanner with file }.dump = ReportPart.header.fill file ++ below := by
    unfold Scanner.dump
    simp only [below, ReportPart.fill, List.append_assoc]
  simp only [shape]
  exact (part .header).append (text below)

theorem reports (options : CommandLine.Options) (scanner : Scanner) :
    NamesInPlace fun file => options.reports { scanner with file } := by
  have dumped : NamesInPlace fun file =>
      if options.debug then { scanner with file }.dump else [] := by
    split
    next => exact dump scanner
    next => exact text []
  have diagnosed : NamesInPlace fun file =>
      if options.diagnostics then
        scanner.diagnostics.flatMap fun diagnostic =>
          diagnostic.render scanner.source file ++ ['\n']
      else [] := by
    split
    next => exact flatMap _ fun diagnostic => (excerpt _ scanner.source).append (text ['\n'])
    next => exact text []
  exact dumped.append diagnosed

end NamesInPlace

theorem Path.of_plain (name : Text) (flat : '/' ∉ name) (filled : name ≠ [])
    (proper : name ≠ ['.']) : of name = { parts := [name] } := by
  have relative : Root.of name = .relative := by
    unfold Root.of
    split
    next => simp at flat
    next => simp at flat
    next => simp at flat
    next => rfl
  have whole : name.splitOn '/' = [name] := List.splitOn_eq_singleton flat
  simp [of, relative, whole, filled, proper]

theorem FileTree.regular?_working (tree : FileTree) : tree.regular? {} = none := by
  simp [regular?, Path.hasNul, read, locate, walk, contentAt, node?, bind, Except.bind,
    Except.toOption]

namespace CommandLine

inductive Report : (Text → Text) → Prop
  | silent : Report fun _ => []
  | misconfigured (error : ConfigError) : Report fun _ => errorLine error.message
  | undecodable (error : Utf8.Error) : Report fun _ => errorLine error.message
  | rejected (error : InputError) (source : Text) :
      Report fun name => error.render source name ++ ['\n']
  | scanned (options : Options) (scanner : Scanner) :
      Report fun name => options.reports { scanner with file := name }

theorem Report.namesInPlace {report : Text → Text} (reported : Report report) :
    NamesInPlace report := by
  cases reported with
  | silent => exact .text []
  | misconfigured error => exact .text _
  | undecodable error => exact .text _
  | rejected error source => exact (NamesInPlace.inputError error source).append (.text ['\n'])
  | scanned options scanner => exact .reports options scanner

structure Outcome.SameButName (name other : Text) (first second : Outcome) : Prop
    extends SameResult first second where
  report : ∃ report, Report report ∧ first.stderr = report name ∧ second.stderr = report other

def standardName : Text :=
  "<stdin>".toList

namespace Options

variable (options : Options) (tree : FileTree)

theorem deliver_unnamed (listing stderr other : Text) :
    (options.deliver tree listing stderr).SameResult
      ({ options with input := none }.deliver tree listing other) := by
  rw [options.deliver_restated tree { options with input := none } rfl listing stderr other]
  exact ⟨rfl, rfl, rfl⟩

theorem scanSource_unnamed (source : Text) :
    (options.scanSource tree source).SameButName options.displayName standardName
      ({ options with input := none }.scanSource tree source) := by
  have name : { options with input := none }.displayName = standardName := rfl
  have renamed := source.scanned_renamed options.displayName standardName
  unfold scanSource
  rw [name, renamed]
  cases found : source.scanned options.displayName with
  | error error => exact ⟨⟨rfl, rfl, rfl⟩, _, .rejected error source, rfl, rfl⟩
  | ok scanner =>
    obtain ⟨-, file⟩ := source.of_scanned options.displayName scanner found
    have same : scanner = { scanner with file := options.displayName } := by rw [← file]
    dsimp only [Except.map]
    cases options.format with
    | nothing =>
      exact ⟨⟨rfl, rfl, rfl⟩, _, .scanned options scanner, congrArg options.reports same, rfl⟩
    | chosen format =>
      refine ⟨options.deliver_unnamed tree _ _ _, _, .scanned options scanner, ?_, ?_⟩
      · rw [deliver_stderr]
        exact congrArg options.reports same
      · rw [deliver_stderr]
        rfl

theorem run_unnamed (stdin content : Bytes) (path : Path) (input : options.input = some path)
    (held : tree.regular? path = some content) :
    (options.run tree stdin).SameButName options.displayName standardName
      ({ options with input := none }.run tree content) := by
  have given : options.content tree stdin = .ok content := by
    unfold FileTree.regular? at held
    split at held
    next => contradiction
    next nulFree =>
      have nulFree : path.hasNul = false := by simpa using nulFree
      cases read : tree.read path <;> simp_all [Options.content, Except.toOption]
  have piped : { options with input := none }.content tree content = .ok content := rfl
  simp only [run, source, given, piped, bind, Except.bind]
  cases Utf8.decode content with
  | error error => exact ⟨⟨rfl, rfl, rfl⟩, _, .undecodable error, rfl, rfl⟩
  | ok text => exact options.scanSource_unnamed tree text.universalNewlines

end Options

namespace Arguments

variable (arguments : Arguments) (name : Text) (tree : FileTree)

theorem configPath_of_plain (path : Path.of name = { parts := [name] }) (file : name ≠ ['-']) :
    { arguments with input := name }.configPath =
      { arguments with input := ['-'] }.configPath := by
  simp [configPath, inputPath, readsStandardInput, file, path, Path.parent]

theorem run_standardInput (stdin content : Bytes) (flat : '/' ∉ name) (file : name ≠ ['-'])
    (held : tree.regular? (.of name) = some content) :
    ({ arguments with input := name }.run tree stdin).SameButName name standardName
      ({ arguments with input := ['-'] }.run tree content) := by
  have elsewhere : Path.of name ≠ {} := by
    intro working
    simp [working, tree.regular?_working] at held
  have path : Path.of name = { parts := [name] } :=
    Path.of_plain name flat (fun none => elsewhere (by rw [none]; rfl))
      (fun here => elsewhere (by rw [here]; rfl))
  unfold run resolve
  rw [arguments.configPath_of_plain name path file]
  cases Config.load (tree.regular? { arguments with input := ['-'] }.configPath) with
  | error error =>
    dsimp only [Except.map]
    split
    next => exact ⟨⟨rfl, rfl, rfl⟩, _, .silent, rfl, rfl⟩
    next => exact ⟨⟨rfl, rfl, rfl⟩, _, .misconfigured error, rfl, rfl⟩
  | ok config =>
    let options := merge { arguments with input := name } config
    have input : options.input = some (.of name) := by
      simp [options, merge, inputPath, readsStandardInput, file]
    have shown : options.displayName = name := by
      simp [Options.displayName, input, path, Path.shown, Root.shown]
    have same := options.run_unnamed tree stdin content (.of name) input held
    rw [shown] at same
    exact same

end Arguments

-- A run on the bytes of a file in the working directory is as good as a run on the file, but that
-- another name is shown in the places of the name. A name that is held as a regular file is not
-- empty, and is neither one dot nor two.
theorem run_of_standard_input (arguments : Arguments) (name : Text) (tree : FileTree)
    (stdin content : Bytes) (flat : '/' ∉ name) (file : name ≠ ['-'])
    (held : tree.regular? (.of name) = some content) :
    let first := { arguments with input := name }.run tree stdin
    let second := { arguments with input := ['-'] }.run tree content
    first.SameResult second ∧ ∃ report, Report report ∧ NamesInPlace report ∧
      first.stderr = report name ∧ second.stderr = report "<stdin>".toList := by
  obtain ⟨result, report, reported, left, right⟩ :=
    arguments.run_standardInput name tree stdin content flat file held
  exact ⟨result, report, reported, reported.namesInPlace, left, right⟩

theorem run_of_standard_input_over_file :
    let name : Text := "a.cs".toList
    let source : Text := "y ;\n".toList
    let tree : FileTree := { files := [({ parts := [name] }, source.utf8)] }
    let arguments : Arguments :=
      { input := name, output := some name, diagnostics := true, debug := true }
    let first := arguments.run tree []
    let second := { arguments with input := ['-'] }.run tree source.utf8
    '/' ∉ name ∧ name ≠ ['-'] ∧ tree.regular? (.of name) = some source.utf8 ∧
      first.SameResult second ∧
      (∃ report, Report report ∧ NamesInPlace report ∧ first.stderr = report name ∧
        second.stderr = report "<stdin>".toList) ∧
      first.stderr ≠ second.stderr ∧ second.tree ≠ tree := by
  intro name source tree arguments first second
  have flat : '/' ∉ name := by decide
  have file : name ≠ ['-'] := by decide
  have held : tree.regular? (.of name) = some source.utf8 := by decide +kernel
  have same := run_of_standard_input arguments name tree [] source.utf8 flat file held
  exact ⟨flat, file, held, same.1, same.2, by decide +kernel, by decide +kernel⟩

end CommandLine
end LineLexer
