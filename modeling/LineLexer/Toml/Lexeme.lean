import LineLexer.Toml.Error
import LineLexer.Toml.Value
import LineLexer.Word.Shape

set_option autoImplicit false

namespace LineLexer.Toml

def fail {A : Type} (problem : Problem) (rest : Text) : Except Failure A :=
  .error (.problem problem rest)

def isSpace (c : Char) : Bool :=
  c == ' ' || c == '\t'

def isSpaceOrNewline (c : Char) : Bool :=
  isSpace c || c == '\n'

def isControl (c : Char) : Bool :=
  (c.toNat < 0x20 && c != '\t') || c.toNat == 0x7F

def isIllegal (multiline : Bool) (c : Char) : Bool :=
  isControl c && !(multiline && c == '\n')

def skipSpaces (text : Text) : Text :=
  text.dropWhile isSpace

def checkLegal (multiline : Bool) (body rest : Text) : Except Failure Unit :=
  match body.dropWhile (!isIllegal multiline ·) with
  | [] => .ok ()
  | c :: more => fail (.foundInvalid c) (c :: more ++ rest)

def skipComment : Text → Except Failure Text
  | '#' :: rest => do
    let after := rest.dropWhile (· != '\n')
    checkLegal false (rest.takeWhile (· != '\n')) after
    return after
  | text => .ok text

def skipBetween : (fuel : Nat) → Text → Except Failure Text
  | 0, text => .ok text
  | fuel + 1, text => do
    let after ← skipComment (text.dropWhile isSpaceOrNewline)
    if after.length < text.length then skipBetween fuel after else return after

def skipBetweenItems (text : Text) : Except Failure Text :=
  skipBetween text.length text

def hexValue (c : Char) : Nat :=
  if c.isDigit then c.toNat - '0'.toNat
  else if 'a' ≤ c then c.toNat - 'a'.toNat + 10
  else c.toNat - 'A'.toNat + 10

def ofDigits (base : Nat) (digits : Text) : Nat :=
  digits.foldl (fun value c => value * base + hexValue c) 0

def hexChar (length : Nat) (text : Text) : Except Failure (Text × Text) :=
  let digits := text.take length
  if digits.length = length ∧ digits.all Text.isHexDigit then
    let value := ofDigits 16 digits
    let rest := text.drop length
    if value.isValidChar then .ok ([Char.ofNat value], rest) else fail .notScalar rest
  else fail .invalidHex text

def shortEscape? : Char → Option Char
  | 'b' => some '\x08'
  | 't' => some '\t'
  | 'n' => some '\n'
  | 'f' => some '\x0c'
  | 'r' => some '\r'
  | '"' => some '"'
  | '\\' => some '\\'
  | _ => none

-- A backslash at the end of a line joins the next line that is not blank.
def lineJoin (c : Char) (text : Text) : Except Failure (Text × Text) :=
  if c = '\n' then .ok ([], text.dropWhile isSpaceOrNewline)
  else
    match skipSpaces text with
    | [] => .ok ([], [])
    | '\n' :: rest => .ok ([], rest.dropWhile isSpaceOrNewline)
    | rest => fail .unescapedBackslash rest

def escape (multiline : Bool) : Text → Except Failure (Text × Text)
  | [] => fail .unescapedBackslash []
  | c :: rest =>
    if multiline && isSpaceOrNewline c then lineJoin c rest
    else if c = 'u' then hexChar 4 rest
    else if c = 'U' then hexChar 8 rest
    else
      match shortEscape? c with
      | some meant => .ok ([meant], rest)
      | none => fail .unescapedBackslash rest

def prepend (piece : Text) (result : Except Failure (Text × Text)) :
    Except Failure (Text × Text) :=
  result.map fun (text, rest) => (piece ++ text, rest)

def basicBody (multiline : Bool) : (fuel : Nat) → Text → Except Failure (Text × Text)
  | 0, text => fail .unterminatedString text
  | _, [] => fail .unterminatedString []
  | fuel + 1, '"' :: rest =>
    if multiline then
      match Text.after? ['"', '"'] rest with
      | some rest => .ok ([], rest)
      | none => prepend ['"'] (basicBody multiline fuel rest)
    else .ok ([], rest)
  | fuel + 1, '\\' :: rest => do
    let (meant, rest) ← escape multiline rest
    prepend meant (basicBody multiline fuel rest)
  | fuel + 1, c :: rest =>
    if isIllegal multiline c then fail (.illegalCharacter c) (c :: rest)
    else prepend [c] (basicBody multiline fuel rest)

def basicString (multiline : Bool) (text : Text) : Except Failure (Text × Text) :=
  basicBody multiline (text.length + 1) text

def splitBefore? (mark : Text) : Text → Option (Text × Text)
  | [] => none
  | c :: rest =>
    if mark.isPrefixOf (c :: rest) then some ([], c :: rest)
    else (splitBefore? mark rest).map fun (before, after) => (c :: before, after)

def literalString (multiline : Bool) (mark text : Text) : Except Failure (Text × Text) :=
  match splitBefore? mark text with
  | none => fail (.expectedMark mark) []
  | some (body, after) => do
    checkLegal multiline body after
    return (body, after.drop mark.length)

-- Up to two marks before the closing three belong to the string.
def finalMarks (mark : Char) (result : Text × Text) : Text × Text :=
  let extra := (result.2.take 2).takeWhile (· == mark)
  (result.1 ++ extra, result.2.drop extra.length)

def withoutFirstNewline : Text → Text
  | '\n' :: rest => rest
  | text => text

def multilineString (mark : Char) (text : Text) : Except Failure (Text × Text) :=
  let body := withoutFirstNewline text
  (if mark = '"' then basicString true body else literalString true [mark, mark, mark] body).map
    (finalMarks mark)

def string (mark : Char) (text : Text) : Except Failure (Text × Text) :=
  match Text.after? [mark, mark] text with
  | some body => multilineString mark body
  | none => if mark = '"' then basicString false text else literalString false [mark] text

def isBareKeyChar (c : Char) : Bool :=
  c.isAlphanum || c == '-' || c == '_'

def keyPart : Text → Except Failure (Text × Text)
  | '"' :: rest => basicString false rest
  | '\'' :: rest => literalString false ['\''] rest
  | text =>
    let part := text.takeWhile isBareKeyChar
    if part.isEmpty then fail .invalidKeyPart text else .ok (part, text.dropWhile isBareKeyChar)

def keyParts : (fuel : Nat) → Text → Except Failure (Key × Text)
  | 0, text => fail .invalidKeyPart text
  | fuel + 1, text => do
    let (part, rest) ← keyPart text
    match skipSpaces rest with
    | '.' :: rest => do
      let (parts, rest) ← keyParts fuel (skipSpaces rest)
      return (part :: parts, rest)
    | rest => return ([part], rest)

def key (text : Text) : Except Failure (Key × Text) :=
  keyParts (text.length + 1) text

def digitRun (isDigit : Char → Bool) : Text → Text × Text
  | '_' :: c :: rest =>
    if isDigit c then
      let (digits, rest) := digitRun isDigit rest
      (c :: digits, rest)
    else ([], '_' :: c :: rest)
  | c :: rest =>
    if isDigit c then
      let (digits, rest) := digitRun isDigit rest
      (c :: digits, rest)
    else ([], c :: rest)
  | [] => ([], [])

def digits? (isDigit : Char → Bool) (text : Text) : Option (Text × Text) :=
  if text.head?.any isDigit then some (digitRun isDigit text) else none

def radixInteger? : Text → Option (Int × Text)
  | '0' :: mark :: text =>
    let read (base : Nat) (isDigit : Char → Bool) : Option (Int × Text) :=
      (digits? isDigit text).map fun (digits, rest) => (ofDigits base digits, rest)
    match mark with
    | 'x' => read 16 Text.isHexDigit
    | 'b' => read 2 Text.isBinaryDigit
    | 'o' => read 8 Text.isOctalDigit
    | _ => none
  | _ => none

def signed : Text → Bool × Text
  | '-' :: rest => (true, rest)
  | '+' :: rest => (false, rest)
  | text => (false, text)

def wholePart? : Text → Option (Text × Text)
  | '0' :: rest => some (['0'], rest)
  | text => digits? Char.isDigit text

def fractionPart? : Text → Option (Text × Text)
  | '.' :: rest => digits? Char.isDigit rest
  | _ => none

def exponentPart? : Text → Option (Int × Text)
  | mark :: rest =>
    if mark = 'e' ∨ mark = 'E' then
      let (negative, rest) := signed rest
      (digits? Char.isDigit rest).map fun (digits, rest) =>
        let size : Int := ofDigits 10 digits
        (if negative then -size else size, rest)
    else none
  | [] => none

def decimalInteger (negative : Bool) (digits : Text) : Except Failure Value :=
  let size : Int := ofDigits 10 digits
  if digitLimit < digits.length then .error (.digits (.read digits.length))
  else .ok (.integer (if negative then -size else size))

def decimalFraction (negative : Bool) (whole fraction : Text) (exponent : Int) : Value :=
  .number <| .ofDecimal negative
    { significand := ofDigits 10 (whole ++ fraction), exponent := exponent - fraction.length }

def decimalNumber? (text : Text) : Option (Except Failure Value × Text) :=
  let (negative, unsigned) := signed text
  (wholePart? unsigned).map fun (whole, afterWhole) =>
    let (fraction, afterFraction) := (fractionPart? afterWhole).getD ([], afterWhole)
    let (exponent, rest) := (exponentPart? afterFraction).getD (0, afterFraction)
    if rest.length = afterWhole.length then (decimalInteger negative whole, rest)
    else (.ok (decimalFraction negative whole fraction exponent), rest)

def specialNumber? (text : Text) : Option (Value × Text) :=
  let (negative, unsigned) := signed text
  match Text.after? "inf".toList unsigned, Text.after? "nan".toList unsigned with
  | some rest, _ => some (.number (.infinity negative), rest)
  | _, some rest => some (.number .nan, rest)
  | none, none => none

def number (text : Text) : Except Failure (Value × Text) :=
  match radixInteger? text, decimalNumber? text, specialNumber? text with
  | some (value, rest), _, _ => .ok (.integer value, rest)
  | _, some (value, rest), _ => value.map (·, rest)
  | _, _, some found => .ok found
  | none, none, none => fail .invalidValue text

def boolean? (text : Text) : Option (Value × Text) :=
  match Text.after? "true".toList text, Text.after? "false".toList text with
  | some rest, _ => some (.boolean true, rest)
  | _, some rest => some (.boolean false, rest)
  | none, none => none

def scalar (text : Text) : Except Failure (Value × Text) :=
  match boolean? text, moment? text with
  | some found, _ => .ok found
  | none, some (moment, rest) =>
    if moment.isValid then .ok (.moment moment, rest) else fail .invalidDate text
  | none, none => number text

end LineLexer.Toml
