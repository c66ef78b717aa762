import LineLexer.Text.CharClass

set_option autoImplicit false

namespace LineLexer

inductive Keyword where
  | plain (name : Text)
  | pair (first second : Text)
  deriving DecidableEq, Repr

namespace Keyword

def shown : Keyword → Text
  | plain name => name
  | pair first second => first ++ ['\\', 's'] ++ second

def split? : Keyword → Text → Option (Text × Text)
  | plain name, text => (Text.after? name text).map fun rest => (name, rest)
  | pair first second, text =>
    match Text.after? first text with
    | some (blank :: rest) =>
      if isBlank blank then
        (Text.after? second rest).map fun rest => (first ++ blank :: second, rest)
      else none
    | _ => none

end Keyword

-- Between two characters exactly one of which belongs to a word; the ends of a text belong to none.
def isWordBoundary (before after : Option Char) : Bool :=
  before.any isWordChar != after.any isWordChar

namespace Keyword

def begins (keyword : Keyword) (before : Option Char) (text : Text) : Bool :=
  match keyword.split? text with
  | some (found, rest) =>
    isWordBoundary before text.head? && isWordBoundary found.getLast? rest.head?
  | none => false

def occurs (keyword : Keyword) (before : Option Char) : Text → Bool
  | [] => keyword.begins before []
  | c :: rest => keyword.begins before (c :: rest) || keyword.occurs (some c) rest

end Keyword

def Text.hasKeyword (keywords : List Keyword) (text : Text) : Bool :=
  keywords.any fun keyword => keyword.occurs none text

end LineLexer
