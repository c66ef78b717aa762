import LineLexer.Excerpt

set_option autoImplicit false

namespace LineLexer

namespace Program

def name : Text :=
  "lexscan".toList

def version : Text :=
  "0.1.0".toList

end Program

def defaultFile : Text :=
  "input.cs".toList

inductive Problem where
  | expectedName
  | undeclared
  deriving DecidableEq, Repr

structure Diagnostic where
  problem : Problem
  word : Text
  span : Span
  deriving DecidableEq, Repr

namespace Diagnostic

def message (diagnostic : Diagnostic) : Text :=
  match diagnostic.problem with
  | .expectedName =>
    "expected identifier/string after type, found `".toList ++ diagnostic.word ++ ['`']
  | .undeclared => "undeclared variable `".toList ++ diagnostic.word ++ ['`']

def render (diagnostic : Diagnostic) (source file : Text) : Text :=
  (Excerpt.warning diagnostic.message diagnostic.span).render source file

end Diagnostic

inductive InputError where
  | empty
  | nul (position : Position)
  deriving DecidableEq, Repr

namespace InputError

def message : InputError → Text
  | empty => "empty source".toList
  | nul _ => "NUL character in source".toList

def position : InputError → Option Position
  | empty => none
  | nul position => some position

def render (error : InputError) (source file : Text) : Text :=
  renderError error.message error.position source file

end InputError

def Text.inputError? (source : Text) : Option InputError :=
  if source.isEmpty then some .empty
  else if source.contains '\x00' then
    some (.nul (.after (source.takeWhile (· != '\x00'))))
  else none

end LineLexer
