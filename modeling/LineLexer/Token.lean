import LineLexer.Text.Basic

set_option autoImplicit false

namespace LineLexer

-- Both coordinates count from one.
structure Position where
  line : Int
  column : Int
  deriving DecidableEq, Repr

def Position.after (before : Text) : Position where
  line := before.count '\n' + 1
  column := (before.afterLast '\n').length + 1

def Position.advance (position : Position) (width : Nat) : Position :=
  { position with column := position.column + width }

-- `stop` is one past the last character.
structure Span where
  start : Position
  stop : Position
  deriving DecidableEq, Repr

inductive Kind where
  | number
  | string
  | operator
  | identifier
  | directive
  | comment
  | reserved
  | delimiter
  | error
  deriving DecidableEq, Repr

def Kind.all : List Kind :=
  [.number, .string, .operator, .identifier, .directive, .comment, .reserved, .delimiter, .error]

def Kind.label : Kind → Text
  | .number => "Number".toList
  | .string => "String".toList
  | .operator => "Operator".toList
  | .identifier => "Identifier".toList
  | .directive => "Directive".toList
  | .comment => "Comment".toList
  | .reserved => "Reserved".toList
  | .delimiter => "Delimiter".toList
  | .error => "Error".toList

def Kind.name (kind : Kind) : Text :=
  kind.label.map Char.toUpper

structure Token where
  value : Text
  kind : Kind
  span : Span
  deriving DecidableEq, Repr

end LineLexer
