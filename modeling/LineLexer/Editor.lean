import LineLexer.Diagnostic
import LineLexer.Scanner
import LineLexer.Table

set_option autoImplicit false

namespace LineLexer.Editor

inductive Severity where
  | error
  | warning
  deriving DecidableEq, Repr

structure Range where
  startLine : Int
  startCharacter : Int
  stopLine : Int
  stopCharacter : Int
  deriving DecidableEq, Repr

def Range.ofSpan (span : Span) : Range where
  startLine := span.start.line - 1
  startCharacter := span.start.column - 1
  stopLine := span.stop.line - 1
  stopCharacter := span.stop.column - 1

structure Notice where
  range : Range
  message : Text
  severity : Severity
  deriving DecidableEq, Repr

def Notice.source : Text :=
  Program.name

def Notice.ofDiagnostic (diagnostic : Diagnostic) : Notice where
  range := .ofSpan diagnostic.span
  message := diagnostic.message
  severity := .warning

-- An error without a position is shown on the first character.
def Notice.ofInputError (error : InputError) : Notice :=
  let start := error.position.getD { line := 1, column := 1 }
  { range := .ofSpan { start, stop := start.advance 1 }
    message := error.message
    severity := .error }

def fileName (uri : Text) : Text :=
  uri.afterLast '/'

def noticesIn (file text : Text) : List Notice :=
  if text.isEmpty then []
  else
    match text.scanned file with
    | .error error => [.ofInputError error]
    | .ok scanner => scanner.diagnostics.map .ofDiagnostic

def notices (text : Text) : List Notice :=
  noticesIn defaultFile text

structure Publication where
  uri : Text
  notices : List Notice
  deriving DecidableEq, Repr

inductive Action where
  | opened
  | changed
  deriving DecidableEq, Repr

structure Edit where
  action : Action
  uri : Text
  text : Text
  deriving DecidableEq, Repr

structure Documents (W : Type) where
  store : W → Edit → W
  text? : W → Text → Option Text

namespace Documents

variable {W : Type} (documents : Documents W)

def publish (workspace : W) (uri : Text) : List Publication :=
  match documents.text? workspace uri with
  | some text => [{ uri, notices := noticesIn (fileName uri) text }]
  | none => []

def update (workspace : W) (edit : Edit) : W × List Publication :=
  let stored := documents.store workspace edit
  (stored, documents.publish stored edit.uri)

def publications : W → List Edit → List (List Publication)
  | _, [] => []
  | workspace, edit :: rest =>
    let (stored, published) := documents.update workspace edit
    published :: publications stored rest

end Documents

abbrev Workspace := Table Text Text

namespace Workspace

def documents : Documents Workspace where
  store workspace edit := workspace.put edit.uri edit.text
  text? workspace uri := workspace.get? uri

def update (workspace : Workspace) (uri text : Text) : Workspace × List Publication :=
  documents.update workspace { action := .changed, uri, text }

end Workspace

end LineLexer.Editor
