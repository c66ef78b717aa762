import LineLexer.Text.Quoted
import LineLexer.Token

set_option autoImplicit false

namespace LineLexer.Toml

-- The most decimal digits of an integer that is read or shown. Other bases have no limit.
def digitLimit : Nat :=
  4300

inductive DigitExcess where
  | read (digits : Nat)
  | shown
  deriving DecidableEq, Repr

namespace DigitExcess

def size : DigitExcess → Text
  | read digits => ": value has ".toList ++ Numeral.nat digits ++ " digits".toList
  | shown => []

def message (excess : DigitExcess) : Text :=
  "Exceeds the limit (".toList ++ Numeral.nat digitLimit ++
    " digits) for integer string conversion".toList ++ excess.size ++
    "; use sys.set_int_max_str_digits() to increase the limit".toList

end DigitExcess

abbrev Key := List Text

def Key.shown : Key → Text
  | [part] => '(' :: part.quoted ++ ",)".toList
  | parts => '(' :: Text.commaSeparated (parts.map Text.quoted) ++ [')']

inductive Problem where
  | invalidStatement
  | expectedNewline
  | invalidKeyPart
  | expectedEquals
  | expectedTableEnd
  | expectedArrayEnd
  | declaredTwice (key : Key)
  | redefined (key : Key)
  | immutable (key : Key)
  | overwritten
  | invalidValue
  | invalidDate
  | unterminatedString
  | illegalCharacter (c : Char)
  | unescapedBackslash
  | invalidHex
  | notScalar
  | expectedMark (mark : Text)
  | foundInvalid (c : Char)
  | unclosedArray
  | unclosedTable
  | duplicateKey (key : Text)
  deriving DecidableEq, Repr

def Problem.message : Problem → Text
  | invalidStatement => "Invalid statement".toList
  | expectedNewline => "Expected newline or end of document after a statement".toList
  | invalidKeyPart => "Invalid initial character for a key part".toList
  | expectedEquals => "Expected '=' after a key in a key/value pair".toList
  | expectedTableEnd => "Expected ']' at the end of a table declaration".toList
  | expectedArrayEnd => "Expected ']]' at the end of an array declaration".toList
  | declaredTwice key => "Cannot declare ".toList ++ key.shown ++ " twice".toList
  | redefined key => "Cannot redefine namespace ".toList ++ key.shown
  | immutable key => "Cannot mutate immutable namespace ".toList ++ key.shown
  | overwritten => "Cannot overwrite a value".toList
  | invalidValue => "Invalid value".toList
  | invalidDate => "Invalid date or datetime".toList
  | unterminatedString => "Unterminated string".toList
  | illegalCharacter c => "Illegal character ".toList ++ Text.quoted [c]
  | unescapedBackslash => "Unescaped '\\' in a string".toList
  | invalidHex => "Invalid hex value".toList
  | notScalar => "Escaped character is not a Unicode scalar value".toList
  | expectedMark mark => "Expected ".toList ++ mark.quoted
  | foundInvalid c => "Found invalid character ".toList ++ Text.quoted [c]
  | unclosedArray => "Unclosed array".toList
  | unclosedTable => "Unclosed inline table".toList
  | duplicateKey key => "Duplicate inline table key ".toList ++ key.quoted

inductive Failure where
  | problem (problem : Problem) (rest : Text)
  | digits (excess : DigitExcess)
  deriving DecidableEq, Repr

inductive Error where
  | problem (problem : Problem) (position : Option Position)
  | digits (excess : DigitExcess)
  deriving DecidableEq, Repr

def Failure.locate (source : Text) : Failure → Error
  | problem found rest =>
    .problem found <|
      if rest.isEmpty then none
      else some (.after (source.take (source.length - rest.length)))
  | digits excess => .digits excess

def Error.place : Option Position → Text
  | some position =>
    "line ".toList ++ Numeral.int position.line ++ ", column ".toList ++
      Numeral.int position.column
  | none => "end of document".toList

def Error.message : Error → Text
  | problem found position =>
    found.message ++ " (at ".toList ++ place position ++ [')']
  | digits excess => excess.message

end LineLexer.Toml
