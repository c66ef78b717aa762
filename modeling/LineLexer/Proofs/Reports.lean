import LineLexer.Proofs.Delivery

set_option autoImplicit false

namespace LineLexer.CommandLine

namespace Outcome

structure SameResult (first second : Outcome) : Prop where
  ending : second.ending = first.ending
  stdout : second.stdout = first.stdout
  tree : second.tree = first.tree

structure SameButReports (first second : Outcome) : Prop extends SameResult first second where
  complaint : first.ending = .returned 1 ∨ first.ending = .returned 2 →
    second.stderr = first.stderr

structure SameButListing (first second : Outcome) : Prop where
  ending : second.ending = first.ending
  stderr : second.stderr = first.stderr

theorem SameButReports.refl (outcome : Outcome) : outcome.SameButReports outcome where
  ending := rfl
  stdout := rfl
  tree := rfl
  complaint _ := rfl

theorem sameButReports_of_uncomplaining (outcome : Outcome) (stderr : Text)
    (notOne : outcome.ending ≠ .returned 1) (notTwo : outcome.ending ≠ .returned 2) :
    outcome.SameButReports { outcome with stderr } where
  ending := rfl
  stdout := rfl
  tree := rfl
  complaint ended := by
    rcases ended with one | two
    · exact absurd one notOne
    · exact absurd two notTwo

end Outcome

namespace Options

variable (options : Options) (tree : FileTree) (stdin : Bytes) (debug diagnostics : Bool)

-- Only the place for the listing decides how it is delivered.
theorem deliver_restated (others : Options) (output : others.output = options.output)
    (listing stderr other : Text) :
    others.deliver tree listing other =
      { options.deliver tree listing stderr with stderr := other } := by
  unfold deliver
  rw [output]
  split
  next => rfl
  next path =>
    split
    next => rfl
    next => split <;> rfl

theorem deliver_ending_ne (listing stderr : Text) (code : Nat) (positive : 0 < code) :
    (options.deliver tree listing stderr).ending ≠ .returned code := by
  fun_cases deliver options tree listing stderr <;> simp [Nat.ne_of_lt positive]

theorem deliver_reports (listing stderr other : Text) :
    (options.deliver tree listing stderr).SameButReports
      ({ options with debug, diagnostics }.deliver tree listing other) := by
  rw [options.deliver_restated tree { options with debug, diagnostics } rfl listing stderr other]
  exact Outcome.sameButReports_of_uncomplaining _ other
    (options.deliver_ending_ne tree listing stderr 1 Nat.one_pos)
    (options.deliver_ending_ne tree listing stderr 2 Nat.two_pos)

theorem scanSource_reports (source : Text) :
    (options.scanSource tree source).SameButReports
      ({ options with debug, diagnostics }.scanSource tree source) := by
  have name : { options with debug, diagnostics }.displayName = options.displayName := rfl
  unfold scanSource
  rw [name]
  cases source.scanned options.displayName with
  | error error => exact .refl _
  | ok scanner =>
    dsimp only
    cases options.format with
    | chosen format => exact options.deliver_reports tree debug diagnostics _ _ _
    | nothing => exact Outcome.sameButReports_of_uncomplaining _ _ (by simp) (by simp)

theorem run_reports :
    (options.run tree stdin).SameButReports
      ({ options with debug, diagnostics }.run tree stdin) := by
  have read : { options with debug, diagnostics }.source tree stdin = options.source tree stdin :=
    rfl
  unfold run
  rw [read]
  split
  next source found => exact options.scanSource_reports tree debug diagnostics source
  next => exact .refl _
  next => exact .refl _

theorem deliver_listings (first second stderr : Text) (format : FormatChoice) :
    (options.deliver tree first stderr).SameButListing
      ({ options with format }.deliver tree second stderr) := by
  unfold deliver
  dsimp only
  split
  next => exact ⟨rfl, rfl⟩
  next path output =>
    split
    next => exact ⟨rfl, rfl⟩
    next =>
      have failing (error : FileError) : tree.write path first.utf8 = .error error ↔
          tree.write path second.utf8 = .error error := by
        rw [FileTree.write_eq_error_iff, FileTree.write_eq_error_iff]
      cases written : tree.write path first.utf8 with
      | error error =>
        rw [(failing error).mp written]
        exact ⟨rfl, rfl⟩
      | ok after =>
        cases again : tree.write path second.utf8 with
        | error error => simp [(failing error).mpr again] at written
        | ok other => exact ⟨rfl, rfl⟩

theorem run_formats (first second : Format) (chosen : options.format = .chosen first) :
    (options.run tree stdin).SameButListing
      ({ options with format := .chosen second }.run tree stdin) := by
  have read : { options with format := .chosen second }.source tree stdin =
      options.source tree stdin := rfl
  have name : { options with format := .chosen second }.displayName = options.displayName := rfl
  unfold run
  rw [read]
  split
  next source found =>
    unfold scanSource
    rw [name, chosen]
    cases source.scanned options.displayName with
    | error error => exact ⟨rfl, rfl⟩
    | ok scanner => exact options.deliver_listings tree _ _ _ _
  next => exact ⟨rfl, rfl⟩
  next => exact ⟨rfl, rfl⟩

theorem deliver_stderr (listing stderr : Text) :
    (options.deliver tree listing stderr).stderr = stderr :=
  congrArg Outcome.stderr (options.deliver_restated tree options rfl listing stderr stderr)

theorem scanSource_stderr (source : Text) (scanner : Scanner)
    (scanned : source.scanned options.displayName = .ok scanner) :
    (options.scanSource tree source).stderr = options.reports scanner := by
  unfold scanSource
  rw [scanned]
  dsimp only
  split
  next => exact options.deliver_stderr tree _ _
  next => rfl

theorem reports_eq (source : Text) (scanner : Scanner)
    (scanned : source.scanned options.displayName = .ok scanner) :
    options.reports scanner =
      (if options.debug then scanner.dump else []) ++
        if options.diagnostics then
          (scanner.diagnostics.map fun diagnostic =>
            diagnostic.render source options.displayName ++ ['\n']).flatten
        else [] := by
  obtain ⟨shown, named⟩ := source.of_scanned options.displayName scanner scanned
  rw [reports, shown, named, List.flatMap_def]

end Options

namespace Arguments

variable (arguments : Arguments) (tree : FileTree) (stdin : Bytes)

theorem run_reports (debug diagnostics : Bool) :
    (arguments.run tree stdin).SameButReports
      ({ arguments with debug, diagnostics }.run tree stdin) := by
  have path : { arguments with debug, diagnostics }.configPath = arguments.configPath := rfl
  unfold run resolve
  rw [path]
  cases Config.load (tree.regular? arguments.configPath) with
  | error error => exact .refl _
  | ok config =>
    exact (arguments.merge config).run_reports tree stdin debug
      (diagnostics || config.diagnostics.getD false)

theorem run_formats (first second : Format) (chosen : arguments.format = some (.chosen first)) :
    (arguments.run tree stdin).SameButListing
      ({ arguments with format := some (.chosen second) }.run tree stdin) := by
  have path : { arguments with format := some (.chosen second) }.configPath =
      arguments.configPath := rfl
  unfold run resolve
  rw [path]
  cases Config.load (tree.regular? arguments.configPath) with
  | error error => exact ⟨rfl, rfl⟩
  | ok config =>
    have asked : (arguments.merge config).format = .chosen first := by simp [merge, chosen]
    exact (arguments.merge config).run_formats tree stdin first second asked

end Arguments

theorem run_apart_from_reports (arguments : Arguments) (tree : FileTree) (stdin : Bytes) :
    let outcome := arguments.run tree stdin
    (∀ debug diagnostics,
      outcome.SameButReports ({ arguments with debug, diagnostics }.run tree stdin)) ∧
    (arguments.format = some (.chosen .text) →
      outcome.SameButListing
        ({ arguments with format := some (.chosen .json) }.run tree stdin)) ∧
    ∀ options source scanner, arguments.resolve tree = .ok options →
      options.source tree stdin = .ok source →
      (Scanner.fresh source options.displayName none).scan = (scanner, none) →
      outcome.stderr =
        (if options.debug then scanner.dump else []) ++
          if options.diagnostics then
            (scanner.diagnostics.map fun diagnostic =>
              diagnostic.render source options.displayName ++ ['\n']).flatten
          else [] := by
  refine ⟨arguments.run_reports tree stdin, arguments.run_formats tree stdin .text .json, ?_⟩
  intro options source scanner resolved read finished
  have scanned := (Text.scanned_eq_ok_iff source options.displayName scanner).mpr finished
  simp only [Arguments.run, resolved, Options.run, read,
    options.scanSource_stderr tree source scanner scanned]
  exact options.reports_eq source scanner scanned

theorem run_apart_from_reports_with_config :
    let source : Text := "y ;\n".toList
    let config : Text := "output.diagnostics = true".toList
    let tree : FileTree :=
      { files :=
          [({ parts := ["a.cs".toList] }, source.utf8),
            ({ parts := ["lexscan.toml".toList] }, config.utf8)] }
    let arguments : Arguments := { input := "a.cs".toList, format := some (.chosen .text) }
    let dumping := { arguments with debug := true }
    let json := { arguments with format := some (.chosen .json) }
    let options : Options :=
      { input := some (.of "a.cs".toList), output := none, format := .chosen .text
        diagnostics := true, debug := false }
    let diagnostic : Diagnostic :=
      { problem := .undeclared, word := ['y'], span := ⟨⟨1, 1⟩, ⟨1, 2⟩⟩ }
    (arguments.run tree []).SameButReports (dumping.run tree []) ∧
      (dumping.run tree []).stderr ≠ (arguments.run tree []).stderr ∧
      (arguments.run tree []).SameButListing (json.run tree []) ∧
      (json.run tree []).stdout ≠ (arguments.run tree []).stdout ∧
      arguments.resolve tree = .ok options ∧ options.source tree [] = .ok source ∧
      (arguments.run tree []).stderr = diagnostic.render source "a.cs".toList ++ ['\n'] := by
  intro source config tree arguments dumping json options diagnostic
  let scanner := (Scanner.fresh source options.displayName none).scan.1
  have resolved : arguments.resolve tree = .ok options := by
    have found : (arguments.resolve tree).toOption = some options := by decide +kernel
    cases known : arguments.resolve tree <;> simp_all [Except.toOption]
  have read : options.source tree [] = .ok source := by decide +kernel
  have finished : (Scanner.fresh source options.displayName none).scan = (scanner, none) :=
    Prod.ext rfl (by decide +kernel)
  have reported : scanner.diagnostics = [diagnostic] := by decide +kernel
  obtain ⟨reports, formats, law⟩ := run_apart_from_reports arguments tree []
  have stderr := law options source scanner resolved read finished
  have name : options.displayName = "a.cs".toList := by decide +kernel
  refine ⟨reports true false, by decide +kernel, formats rfl, by decide +kernel, resolved, read, ?_⟩
  have silent : options.debug = false := rfl
  have asked : options.diagnostics = true := rfl
  simpa [silent, asked, reported, name] using stderr

end LineLexer.CommandLine
