import LineLexer.Text.Quoted
import LineLexer.Token

set_option autoImplicit false

namespace LineLexer

inductive Format where
  | text
  | json
  deriving DecidableEq, Repr

namespace Format

def all : List Format :=
  [.text, .json]

def name : Format → Text
  | text => "text".toList
  | json => "json".toList

def ofName? (name : Text) : Option Format :=
  all.find? fun format => format.name == name

def expected : Text :=
  "(expected one of: ".toList ++ Text.commaSeparated (all.map name) ++ [')']

end Format

inductive UnknownFormat where
  | named (name : Text)
  -- A format was asked for, but none was given.
  | missing
  deriving DecidableEq, Repr

namespace UnknownFormat

def shown : UnknownFormat → Text
  | named name => name.quoted
  | missing => "[]".toList

def message (error : UnknownFormat) : Text :=
  "unknown output format ".toList ++ error.shown ++ ' ' :: Format.expected

end UnknownFormat

namespace Listing

def textLine (token : Token) : Text :=
  "< ".toList ++ token.value ++ ", ".toList ++ token.kind.label ++ " >\n".toList

def text (tokens : List Token) : Text :=
  tokens.flatMap textLine

def jsonUnit (n : Nat) : Text :=
  '\\' :: 'u' :: Numeral.hex 4 n

-- Code points above U+FFFF take two units, a high one and a low one.
def jsonUnits (n : Nat) : Text :=
  if n < 0x10000 then jsonUnit n
  else
    jsonUnit (0xD800 + (n - 0x10000) / 0x400) ++ jsonUnit (0xDC00 + (n - 0x10000) % 0x400)

def jsonChar (c : Char) : Text :=
  if c == '"' then ['\\', '"']
  else if c == '\\' then ['\\', '\\']
  else if c == '\n' then ['\\', 'n']
  else if c == '\r' then ['\\', 'r']
  else if c == '\t' then ['\\', 't']
  else if c == '\x0c' then ['\\', 'f']
  else if c == '\x08' then ['\\', 'b']
  else if 0x20 ≤ c.toNat ∧ c.toNat ≤ 0x7E then [c]
  else jsonUnits c.toNat

def jsonString (text : Text) : Text :=
  '"' :: text.flatMap jsonChar ++ ['"']

def jsonField (key value : Text) : Text :=
  Text.spaces 4 ++ jsonString key ++ ": ".toList ++ value

def jsonObject (token : Token) : Text :=
  "  \x7b\n".toList ++
    ",\n".toList.intercalate
      [jsonField "value".toList (jsonString token.value),
        jsonField "kind".toList (jsonString token.kind.label),
        jsonField "line".toList (Numeral.int token.span.start.line),
        jsonField "column".toList (Numeral.int token.span.start.column)] ++
    "\n  \x7d".toList

def json : List Token → Text
  | [] => "[]\n".toList
  | tokens => "[\n".toList ++ ",\n".toList.intercalate (tokens.map jsonObject) ++ "\n]\n".toList

def render (tokens : List Token) : Format → Text
  | .text => text tokens
  | .json => json tokens

def renderNamed (tokens : List Token) (name : Text) : Except UnknownFormat Text :=
  match Format.ofName? name with
  | some format => .ok (render tokens format)
  | none => .error (.named name)

end Listing
end LineLexer
