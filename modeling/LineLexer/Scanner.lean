import LineLexer.Run
import LineLexer.Text.Quoted

set_option autoImplicit false

namespace LineLexer

-- With a limit it refuses the first diagnostic beyond it, after noting it, and every later one.
structure Sink where
  limit : Option Nat := none
  received : List Diagnostic := []
  deriving DecidableEq, Repr

def Sink.room (sink : Sink) : Option Nat :=
  sink.limit.map (· - sink.received.length)

def Sink.receive (sink : Sink) (diagnostics : List Diagnostic) : Sink :=
  { sink with received := sink.received ++ diagnostics }

inductive Halt where
  | rejected (error : InputError)
  | refused (diagnostic : Diagnostic)
  deriving DecidableEq, Repr

structure Scanner where
  source : Text
  file : Text := defaultFile
  grammar : Grammar := .standard
  sink : Option Sink := none
  context : Context := {}
  tokens : List Token := []
  diagnostics : List Diagnostic := []
  deriving DecidableEq

namespace Scanner

def room (scanner : Scanner) : Option Nat :=
  scanner.sink.bind Sink.room

def absorb (scanner : Scanner) (run : Run) : Scanner :=
  { scanner with
    sink := scanner.sink.map (·.receive run.diagnostics)
    context := run.context
    tokens := scanner.tokens ++ run.tokens
    diagnostics := scanner.diagnostics ++ run.diagnostics }

def feed (scanner : Scanner) (events : List Event) : Scanner × Option Halt :=
  let run := scanner.context.run scanner.grammar scanner.room events
  (scanner.absorb run, run.refused.map .refused)

def classify (scanner : Scanner) (word : Word) : Scanner × Option Halt :=
  scanner.feed [.word word]

def scan (scanner : Scanner) : Scanner × Option Halt :=
  match scanner.source.inputError? with
  | some error => (scanner, some (.rejected error))
  | none => scanner.feed scanner.source.events

def trace (scanner : Scanner) : Except InputError (List Step) :=
  match scanner.source.inputError? with
  | some error => .error error
  | none => .ok (scanner.context.trace scanner.grammar scanner.source.events)

def dumpToken (token : Token) : Text :=
  "  ".toList ++ Numeral.int token.span.start.line ++ ':' :: Numeral.int token.span.start.column ++
    ' ' :: token.kind.label ++ ' ' :: token.value.quoted ++ ['\n']

def dumpNames (names : Names) : Text :=
  match names.toList with
  | [] => "(none)".toList
  | names => Text.commaSeparated names

def dump (scanner : Scanner) : Text :=
  "Scan ".toList ++ scanner.file ++ ['\n'] ++ scanner.tokens.flatMap dumpToken ++
    "Declared: ".toList ++ dumpNames scanner.context.declared ++ ['\n'] ++
    "Diagnostics: ".toList ++ Numeral.nat scanner.diagnostics.length ++ ['\n']

end Scanner

def Text.scanned (source file : Text) : Except InputError Scanner :=
  match Scanner.scan { source, file } with
  | (_, some (.rejected error)) => .error error
  | (scanner, _) => .ok scanner

def Text.tokens (source : Text) : Except InputError (List Token) :=
  (source.scanned defaultFile).map Scanner.tokens

end LineLexer
