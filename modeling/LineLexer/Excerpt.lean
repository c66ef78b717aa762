import LineLexer.Text.Basic
import LineLexer.Token

set_option autoImplicit false

namespace LineLexer

structure Excerpt where
  label : Text
  message : Text
  start : Position
  width : Int
  deriving DecidableEq, Repr

def Text.lineAt (source : Text) (number : Int) : Text :=
  if 1 ≤ number then source.lines[(number - 1).toNat]?.getD [] else []

def Text.withoutFinalReturns (line : Text) : Text :=
  (line.reverse.dropWhile (· == '\r')).reverse

inductive WidthError where
  | beyondIndex
  | beyondMemory
  deriving DecidableEq, Repr

def WidthError.message : WidthError → Text
  | beyondIndex => "cannot fit 'int' into an index-sized integer".toList
  | beyondMemory => []

-- An index has 64 bits, one of them for the sign; far fewer characters already fill any memory.
def widthError? (width : Int) : Option WidthError :=
  if width < -0x8000000000000000 ∨ 0x8000000000000000 ≤ width then some .beyondIndex
  else if 0x1000000000 ≤ width then some .beyondMemory
  else none

namespace Excerpt

def margin (excerpt : Excerpt) : Text :=
  Text.spaces ((Numeral.int excerpt.start.line).length + 1)

def headline (excerpt : Excerpt) : Text :=
  excerpt.label ++ ": ".toList ++ excerpt.message

def location (excerpt : Excerpt) (file : Text) : Text :=
  excerpt.margin ++ "--> ".toList ++ file ++ ':' :: Numeral.int excerpt.start.line ++
    ':' :: Numeral.int excerpt.start.column

def sourceLine (excerpt : Excerpt) (source : Text) : Text :=
  Numeral.int excerpt.start.line ++ " | ".toList ++
    (source.lineAt excerpt.start.line).withoutFinalReturns

def carets (excerpt : Excerpt) : Text :=
  List.replicate (max 1 excerpt.width.toNat) '^'

def underline (excerpt : Excerpt) : Text :=
  excerpt.margin ++ "| ".toList ++ Text.spaces (excerpt.start.column - 1).toNat ++ excerpt.carets

def render (excerpt : Excerpt) (source file : Text) : Text :=
  ['\n'].intercalate
    [excerpt.headline, excerpt.location file, excerpt.margin ++ ['|'], excerpt.sourceLine source,
      excerpt.underline]

def compose (excerpt : Excerpt) (source file : Text) : Except WidthError Text :=
  match (widthError? (excerpt.start.column - 1)).or (widthError? (max 1 excerpt.width)) with
  | some error => .error error
  | none => .ok (excerpt.render source file)

def warning (message : Text) (span : Span) : Excerpt where
  label := "warning".toList
  message := message
  start := span.start
  width := if span.stop.line = span.start.line then span.stop.column - span.start.column else 1

def error (message : Text) (start : Position) : Excerpt where
  label := "error".toList
  message := message
  start := start
  width := 1

end Excerpt

def renderError (message : Text) (position : Option Position) (source file : Text) : Text :=
  match position with
  | some start => (Excerpt.error message start).render source file
  | none => "error: ".toList ++ message ++ "\n  --> ".toList ++ file

def composeError (message : Text) (position : Option Position) (source file : Text) :
    Except WidthError Text :=
  match position with
  | some start => (Excerpt.error message start).compose source file
  | none => .ok (renderError message none source file)

end LineLexer
