import LineLexer.Text.CharClass
import LineLexer.Word

set_option autoImplicit false

namespace LineLexer.Text

def opensDirective (text : Text) : Bool :=
  text.head? == some '#'

-- A lone mark, or one before punctuation, opens a directive without having this shape.
def isDirective : Text → Bool
  | '#' :: c :: _ => isWordChar c
  | _ => false

def opensLiteral (text : Text) : Bool :=
  text.head? == some '"'

def closesLiteral (text : Text) : Bool :=
  text.getLast? == some '"'

def opensComment (text : Text) : Bool :=
  ['/', '/'].isPrefixOf text

def isOneOf (chars : List Char) : Text → Bool
  | [c] => chars.contains c
  | _ => false

def isDelimiter (text : Text) : Bool :=
  text.isOneOf delimiters

def isIdentifierStart (c : Char) : Bool :=
  c.isAlpha || c == '_'

def isIdentifierChar (c : Char) : Bool :=
  c.isAlphanum || c == '_'

-- Identifiers are ASCII, though the boundaries of keywords know every script.
def isIdentifier : Text → Bool
  | [] => false
  | c :: rest => isIdentifierStart c && rest.all isIdentifierChar

def isHexDigit (c : Char) : Bool :=
  c.isDigit || ('a' ≤ c && c ≤ 'f') || ('A' ≤ c && c ≤ 'F')

def isOctalDigit (c : Char) : Bool :=
  '0' ≤ c && c ≤ '7'

def isBinaryDigit (c : Char) : Bool :=
  c == '0' || c == '1'

def isNonemptyRun (inRun : Char → Bool) (text : Text) : Bool :=
  !text.isEmpty && text.all inRun

def isFloatSuffix : Text → Bool
  | [] => true
  | [c] => c == 'f' || c == 'F'
  | _ => false

def isFractionTail : Text → Bool
  | '.' :: rest =>
    let digits := rest.takeWhile Char.isDigit
    !digits.isEmpty && isFloatSuffix (rest.dropWhile Char.isDigit)
  | _ => false

def isDecimal (fractions : Bool) (text : Text) : Bool :=
  let whole := text.takeWhile Char.isDigit
  let tail := text.dropWhile Char.isDigit
  !whole.isEmpty && (isFloatSuffix tail || (fractions && isFractionTail tail))

def isRadix : Text → Bool
  | '0' :: mark :: digits =>
    if mark == 'x' || mark == 'X' then isNonemptyRun isHexDigit digits
    else if mark == 'o' || mark == 'O' then isNonemptyRun isOctalDigit digits
    else if mark == 'b' || mark == 'B' then isNonemptyRun isBinaryDigit digits
    else false
  | _ => false

def isNumber (fractions : Bool) (text : Text) : Bool :=
  text.isDecimal fractions || text.isRadix

end LineLexer.Text
