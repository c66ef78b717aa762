import LineLexer.CommandLine.Options
import LineLexer.Scanner
import LineLexer.Text.Basic

set_option autoImplicit false

namespace LineLexer.CommandLine

inductive Failure where
  | file (error : FileError)
  | encoding (error : Utf8.Error)
  | nulInPath
  | digits (excess : Toml.DigitExcess)
  | format (error : UnknownFormat)
  deriving DecidableEq, Repr

def Failure.message : Failure → Text
  | file error => error.message
  | encoding error => error.message
  | nulInPath => "embedded null byte".toList
  | digits excess => excess.message
  | format error => error.message

def ConfigError.failure? : ConfigError → Option Failure
  | format _ => none
  | toml (.problem ..) => none
  | toml (.digits excess) => some (.digits excess)
  | encoding error => some (.encoding error)
  | unshowable => some (.digits .shown)

inductive Ending where
  | returned (code : Nat)
  | exited (code : Nat)
  | failed (failure : Failure)
  deriving DecidableEq, Repr

structure Outcome where
  ending : Ending
  stdout : Text := []
  stderr : Text := []
  tree : FileTree
  deriving DecidableEq, Repr

def errorLine (message : Text) : Text :=
  "error: ".toList ++ message ++ ['\n']

namespace Options

def displayName (options : Options) : Text :=
  match options.input with
  | some path => path.shown
  | none => "<stdin>".toList

def content (options : Options) (tree : FileTree) (stdin : Bytes) : Except Failure Bytes :=
  match options.input with
  | none => .ok stdin
  | some path =>
    if path.hasNul then .error .nulInPath
    else
      match tree.read path with
      | .ok content => .ok content
      | .error error => .error (.file error)

def source (options : Options) (tree : FileTree) (stdin : Bytes) : Except Failure Text := do
  let content ← options.content tree stdin
  match Utf8.decode content with
  | .ok text => return text.universalNewlines
  | .error error => .error (.encoding error)

def reports (options : Options) (scanner : Scanner) : Text :=
  (if options.debug then scanner.dump else []) ++
    (if options.diagnostics then
      scanner.diagnostics.flatMap fun diagnostic =>
        diagnostic.render scanner.source scanner.file ++ ['\n']
    else [])

def deliver (options : Options) (tree : FileTree) (listing stderr : Text) : Outcome :=
  match options.output with
  | none => { ending := .returned 0, stdout := listing, stderr, tree }
  | some path =>
    if path.hasNul then { ending := .failed .nulInPath, stderr, tree }
    else
      match tree.write path listing.utf8 with
      | .ok written => { ending := .returned 0, stderr, tree := written }
      | .error error => { ending := .failed (.file error), stderr, tree }

def scanSource (options : Options) (tree : FileTree) (source : Text) : Outcome :=
  match source.scanned options.displayName with
  | .error error =>
    { ending := .returned 1, tree
      stderr := error.render source options.displayName ++ ['\n'] }
  | .ok scanner =>
    match options.format with
    | .chosen format =>
      options.deliver tree (Listing.render scanner.tokens format) (options.reports scanner)
    | .nothing =>
      { ending := .failed (.format .missing), stderr := options.reports scanner, tree }

def run (options : Options) (tree : FileTree) (stdin : Bytes) : Outcome :=
  match options.source tree stdin with
  | .ok source => options.scanSource tree source
  | .error .nulInPath => { ending := .failed .nulInPath, tree }
  | .error failure => { ending := .returned 1, stderr := errorLine failure.message, tree }

end Options

def Arguments.run (arguments : Arguments) (tree : FileTree) (stdin : Bytes) : Outcome :=
  match arguments.resolve tree with
  | .ok options => options.run tree stdin
  | .error error =>
    match error.failure? with
    | some failure => { ending := .failed failure, tree }
    | none => { ending := .returned 2, stderr := errorLine error.message, tree }

def run (release : Release) (argv : List Text) (tree : FileTree) (stdin : Bytes) : Outcome :=
  match parse release argv with
  | .ok arguments => arguments.run tree stdin
  | .error .help => { ending := .exited 0, stdout := helpText, tree }
  | .error (.error error) => { ending := .exited 2, stderr := error.render, tree }

end LineLexer.CommandLine
