import LineLexer.Decimal
import LineLexer.Proofs.EscapedText
import LineLexer.Proofs.WordShapes

set_option autoImplicit false

namespace LineLexer.Json

inductive Value where
  | null
  | boolean (value : Bool)
  | integer (value : Int)
  | decimal (negative : Bool) (size : Decimal)
  | string (text : Text)
  | array (items : List Value)
  | object (members : List (Text × Value))

def isSpace (c : Char) : Bool :=
  c == ' ' || c == '\t' || c == '\n' || c == '\r'

def skipSpaces (text : Text) : Text :=
  text.dropWhile isSpace

def meant? : Char → Option Char
  | '"' => some '"'
  | '\\' => some '\\'
  | '/' => some '/'
  | 'b' => some '\x08'
  | 'f' => some '\x0c'
  | 'n' => some '\n'
  | 'r' => some '\r'
  | 't' => some '\t'
  | _ => none

def escapes : Escapes where
  meant? := meant?
  width? c := if c = 'u' then some 4 else none
  legal c := decide (0x20 ≤ c.toNat)

-- A high unit and a low one behind it are one character, and neither stands alone.
def ofUnits? : List Nat → Option Text
  | [] => some []
  | [unit] => if unit.isValidChar then some [.ofNat unit] else none
  | high :: low :: rest =>
    if 0xD800 ≤ high ∧ high < 0xDC00 ∧ 0xDC00 ≤ low ∧ low < 0xE000 then
      (ofUnits? rest).map (.ofNat (0x10000 + (high - 0xD800) * 0x400 + (low - 0xDC00)) :: ·)
    else if high.isValidChar then (ofUnits? (low :: rest)).map (.ofNat high :: ·)
    else none

def string? (text : Text) : Option (Text × Text) := do
  let (units, rest) ← escapes.read '"' .plain text
  let text ← ofUnits? units
  return (text, rest)

def digits? (text : Text) : Option (Text × Text) :=
  let digits := text.takeWhile Char.isDigit
  if digits.isEmpty then none else some (digits, text.dropWhile Char.isDigit)

def whole? : Text → Option (Text × Text)
  | '0' :: rest => some (['0'], rest)
  | text => digits? text

def fraction? : Text → Option (Option Text × Text)
  | '.' :: rest => (digits? rest).map fun (digits, rest) => (some digits, rest)
  | text => some (none, text)

def withSign (negative : Bool) (size : Nat) : Int :=
  if negative then -size else size

def exponent? : Text → Option (Option Int × Text)
  | [] => some (none, [])
  | mark :: rest =>
    if mark = 'e' ∨ mark = 'E' then
      let (negative, rest) := Toml.signed rest
      (digits? rest).map fun (digits, rest) =>
        (some (withSign negative (Toml.ofDigits 10 digits)), rest)
    else some (none, mark :: rest)

def numeral (negative : Bool) (whole : Text) : Option Text → Option Int → Value
  | none, none => .integer (withSign negative (Toml.ofDigits 10 whole))
  | fraction, exponent =>
    let fraction := fraction.getD []
    .decimal negative
      { significand := Toml.ofDigits 10 (whole ++ fraction)
        exponent := exponent.getD 0 - fraction.length }

def unsigned? (negative : Bool) (text : Text) : Option (Value × Text) := do
  let (whole, rest) ← whole? text
  let (fraction, rest) ← fraction? rest
  let (exponent, rest) ← exponent? rest
  return (numeral negative whole fraction exponent, rest)

def number? : Text → Option (Value × Text)
  | '-' :: rest => unsigned? true rest
  | text => unsigned? false text

def scalar? (text : Text) : Option (Value × Text) :=
  match Text.after? "null".toList text, Text.after? "true".toList text,
    Text.after? "false".toList text with
  | some rest, _, _ => some (.null, rest)
  | _, some rest, _ => some (.boolean true, rest)
  | _, _, some rest => some (.boolean false, rest)
  | none, none, none => number? text

def separated {α : Type} (close : Char) (item : α) (more : Text → Option (List α × Text))
    (text : Text) : Option (List α × Text) :=
  match skipSpaces text with
  | [] => none
  | mark :: rest =>
    if mark = close then some ([item], rest)
    else if mark = ',' then (more rest).map fun (items, rest) => (item :: items, rest)
    else none

mutual

def value? : (fuel : Nat) → Text → Option (Value × Text)
  | 0, _ => none
  | fuel + 1, text =>
    match skipSpaces text with
    | '"' :: rest => (string? rest).map fun (text, rest) => (.string text, rest)
    | '[' :: rest =>
      match skipSpaces rest with
      | ']' :: rest => some (.array [], rest)
      | _ => (items? fuel rest).map fun (items, rest) => (.array items, rest)
    | '\x7b' :: rest =>
      match skipSpaces rest with
      | '\x7d' :: rest => some (.object [], rest)
      | _ => (members? fuel rest).map fun (members, rest) => (.object members, rest)
    | text => scalar? text

def items? : (fuel : Nat) → Text → Option (List Value × Text)
  | 0, _ => none
  | fuel + 1, text => do
    let (item, rest) ← value? fuel text
    separated ']' item (items? fuel) rest

def members? : (fuel : Nat) → Text → Option (List (Text × Value) × Text)
  | 0, _ => none
  | fuel + 1, text => do
    let quoted ← Text.after? ['"'] (skipSpaces text)
    let (key, rest) ← string? quoted
    let rest ← Text.after? [':'] (skipSpaces rest)
    let (value, rest) ← value? fuel rest
    separated '\x7d' (key, value) (members? fuel) rest

end

def decode (text : Text) : Option Value := do
  let (value, rest) ← value? (2 * text.length + 2) text
  if (skipSpaces rest).isEmpty then return value else none

example : decode "\x7b \"a\\u00e9\\ud83d\\ude00\" : [-0, 1.50e-3], \"b\":[\t\x7b\x7d]\x7d ".toList =
    some (.object
      [("aé😀".toList,
          .array [.integer 0, .decimal false { significand := 150, exponent := -5 }]),
        ("b".toList, .array [.object []])]) := by
  cbv

example : ["[1,]".toList, "01".toList, "\"\n\"".toList, "\"\\ud83d\"".toList, "1 2".toList].all
    (fun text => (decode text).isNone) = true := by
  cbv

end LineLexer.Json
