import LineLexer.Text.CharClass
import LineLexer.Token

set_option autoImplicit false

namespace LineLexer

structure Word where
  text : Text
  span : Span
  deriving DecidableEq, Repr

def Word.startingAt (start : Position) (text : Text) : Word where
  text := text
  span := { start, stop := start.advance text.length }

def delimiters : List Char :=
  ['(', ')', ',', '.', ';', '[', ']', '{', '}']

-- Runs of these characters stay together; every other character is a piece of its own.
def isRunChar (c : Char) : Bool :=
  !isBlank c && !delimiters.contains c

def Text.pieces (line : Text) : List Text :=
  line.splitBy fun left right => isRunChar left && isRunChar right

def Text.isBlank (text : Text) : Bool :=
  text.all LineLexer.isBlank

def Word.place (start : Position) : List Text → List Word
  | [] => []
  | piece :: rest =>
    Word.startingAt start piece :: Word.place (start.advance piece.length) rest

def Text.words (line : Text) (number : Int) : List Word :=
  (Word.place { line := number, column := 1 } line.pieces).filter fun word => !word.text.isBlank

end LineLexer
