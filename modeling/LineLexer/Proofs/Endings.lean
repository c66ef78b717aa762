import LineLexer.CommandLine.Run
import LineLexer.Proofs.FreshScan

set_option autoImplicit false

namespace LineLexer.CommandLine

theorem Arguments.resolve_eq_ok_iff (arguments : Arguments) (tree : FileTree)
    (options : Options) :
    arguments.resolve tree = .ok options ↔
      ∃ config, Config.load (tree.regular? arguments.configPath) = .ok config ∧
        arguments.merge config = options := by
  unfold Arguments.resolve
  cases Config.load (tree.regular? arguments.configPath) <;> simp [Except.map]

theorem Options.source_eq_ok_iff (options : Options) (tree : FileTree) (stdin : Bytes)
    (source : Text) :
    options.source tree stdin = .ok source ↔
      ∃ content text, options.content tree stdin = .ok content ∧
        Utf8.decode content = .ok text ∧ text.universalNewlines = source := by
  unfold Options.source
  cases options.content tree stdin with
  | error failure => simp [bind, Except.bind]
  | ok content =>
    cases decoded : Utf8.decode content with
    | error error => simp [bind, Except.bind, decoded]
    | ok text => simp [bind, Except.bind, decoded, pure, Except.pure]

variable (arguments : Arguments) (tree : FileTree) (stdin : Bytes)

structure Listable (options : Options) (scanner : Scanner) : Prop where
  resolved : arguments.resolve tree = .ok options
  scanned : ∃ source, options.source tree stdin = .ok source ∧
    source.scanned options.displayName = .ok scanner

inductive Ran : Outcome → Prop
  | misconfigured (error : ConfigError) (unresolved : arguments.resolve tree = .error error)
      (reported : error.failure? = none) :
      Ran { ending := .returned 2, stderr := errorLine error.message, tree }
  | configFailed (error : ConfigError) (failure : Failure)
      (unresolved : arguments.resolve tree = .error error)
      (escapes : error.failure? = some failure) :
      Ran { ending := .failed failure, tree }
  | nulInInput (options : Options) (resolved : arguments.resolve tree = .ok options)
      (unread : options.source tree stdin = .error .nulInPath) :
      Ran { ending := .failed .nulInPath, tree }
  | unread (options : Options) (failure : Failure) (resolved : arguments.resolve tree = .ok options)
      (unread : options.source tree stdin = .error failure) (reported : failure ≠ .nulInPath) :
      Ran { ending := .returned 1, stderr := errorLine failure.message, tree }
  | rejected (options : Options) (source : Text) (error : InputError)
      (resolved : arguments.resolve tree = .ok options)
      (read : options.source tree stdin = .ok source)
      (rejected : source.inputError? = some error) :
      Ran
        { ending := .returned 1, tree
          stderr := error.render source options.displayName ++ ['\n'] }
  | formatless (options : Options) (scanner : Scanner)
      (listable : Listable arguments tree stdin options scanner)
      (formatless : options.format = .nothing) :
      Ran { ending := .failed (.format .missing), stderr := options.reports scanner, tree }
  | nulInOutput (options : Options) (scanner : Scanner) (format : Format) (path : Path)
      (listable : Listable arguments tree stdin options scanner)
      (chosen : options.format = .chosen format)
      (output : options.output = some path) (nul : path.hasNul = true) :
      Ran { ending := .failed .nulInPath, stderr := options.reports scanner, tree }
  | unwritten (options : Options) (scanner : Scanner) (format : Format) (path : Path)
      (error : FileError) (listable : Listable arguments tree stdin options scanner)
      (chosen : options.format = .chosen format)
      (output : options.output = some path) (nulFree : path.hasNul = false)
      (unwritten : tree.write path (Listing.render scanner.tokens format).utf8 = .error error) :
      Ran { ending := .failed (.file error), stderr := options.reports scanner, tree }
  | shown (options : Options) (scanner : Scanner) (format : Format)
      (listable : Listable arguments tree stdin options scanner)
      (chosen : options.format = .chosen format) (shown : options.output = none) :
      Ran
        { ending := .returned 0, stdout := Listing.render scanner.tokens format, tree
          stderr := options.reports scanner }
  | written (options : Options) (scanner : Scanner) (format : Format) (path : Path)
      (after : FileTree) (listable : Listable arguments tree stdin options scanner)
      (chosen : options.format = .chosen format)
      (output : options.output = some path) (nulFree : path.hasNul = false)
      (written : tree.write path (Listing.render scanner.tokens format).utf8 = .ok after) :
      Ran { ending := .returned 0, stderr := options.reports scanner, tree := after }

variable {arguments tree stdin}

theorem ran_deliver {options : Options} {scanner : Scanner}
    (listable : Listable arguments tree stdin options scanner) (format : Format)
    (chosen : options.format = .chosen format) :
    Ran arguments tree stdin
      (options.deliver tree (Listing.render scanner.tokens format) (options.reports scanner)) := by
  unfold Options.deliver
  split
  next shown => exact .shown options scanner format listable chosen shown
  next path output =>
    split
    next nul => exact .nulInOutput options scanner format path listable chosen output nul
    next nulFree =>
      have nulFree : path.hasNul = false := by simpa using nulFree
      split
      next after written =>
        exact .written options scanner format path after listable chosen output nulFree written
      next error unwritten =>
        exact .unwritten options scanner format path error listable chosen output nulFree unwritten

theorem ran_scanSource {options : Options} (resolved : arguments.resolve tree = .ok options)
    {source : Text} (read : options.source tree stdin = .ok source) :
    Ran arguments tree stdin (options.scanSource tree source) := by
  unfold Options.scanSource
  split
  next error rejected =>
    exact .rejected options source error resolved read
      ((source.scanned_eq_error_iff options.displayName error).mp rejected)
  next scanner scanned =>
    have listable : Listable arguments tree stdin options scanner :=
      ⟨resolved, source, read, scanned⟩
    split
    next format chosen => exact ran_deliver listable format chosen
    next formatless => exact .formatless options scanner listable formatless

variable (arguments tree stdin)

theorem Arguments.ran : Ran arguments tree stdin (arguments.run tree stdin) := by
  unfold Arguments.run
  split
  next options resolved =>
    unfold Options.run
    split
    next source read => exact ran_scanSource resolved read
    next unread => exact .nulInInput options resolved unread
    next failure reported unread => exact .unread options failure resolved unread reported
  next error unresolved =>
    split
    next failure escapes => exact .configFailed error failure unresolved escapes
    next reported => exact .misconfigured error unresolved reported

end LineLexer.CommandLine
