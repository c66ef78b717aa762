import LineLexer.Word.Keyword
import LineLexer.Word.Shape

set_option autoImplicit false

namespace LineLexer

inductive Rule where
  | directiveBody
  | directiveHead
  | literalPart
  | literalHead
  | commentBody
  | directiveShape
  | commentHead
  | delimiter
  | number
  | operator
  | declaration
  | reserved
  | use
  | unknown
  deriving DecidableEq, Repr

structure Grammar where
  operators : List Char
  fractions : Bool
  keywords : List Keyword
  rules : List Rule
  deriving DecidableEq, Repr

namespace Grammar

def isOperator (grammar : Grammar) (text : Text) : Bool :=
  text.isOneOf grammar.operators

def isNumber (grammar : Grammar) (text : Text) : Bool :=
  text.isNumber grammar.fractions

def isReserved (grammar : Grammar) (text : Text) : Bool :=
  text.hasKeyword grammar.keywords

def standardKeywords : List Keyword :=
  (["abstract", "as", "base", "bool", "break", "byte", "case", "catch", "char", "checked",
    "class", "const", "continue", "decimal", "default", "delegate", "do", "double", "else",
    "enum", "event", "explicit", "extern", "false", "finally", "fixed", "float", "for",
    "foreach", "goto", "if", "implicit", "int", "interface", "internal", "is", "lock", "long",
    "namespace", "new", "null", "object", "operator", "out", "override", "params", "private",
    "protected", "public", "readonly", "ref", "return", "sbyte", "sealed", "short", "sizeof",
    "stackalloc", "static", "string", "struct", "switch", "this", "throw", "true", "try",
    "typeof", "uint", "ulong", "unchecked", "unsafe", "ushort", "using"].map
    fun name => .plain name.toList) ++
  .pair "using".toList "static".toList ::
  (["virtual", "void", "volatile", "while"].map fun name => .plain name.toList)

-- `directiveHead` shadows `directiveShape`, and `delimiter` the delimiters among the operators.
def standard : Grammar where
  operators :=
    ['!', '%', '&', '(', ')', '*', '+', ',', '-', '.', '/', ';', '<', '=', '>', '[', ']', '{', '|',
      '}']
  fractions := true
  keywords := standardKeywords
  rules :=
    [.directiveBody, .directiveHead, .literalPart, .literalHead, .commentBody, .directiveShape,
      .commentHead, .delimiter, .number, .operator, .declaration, .reserved, .use, .unknown]

instance : Inhabited Grammar := ⟨standard⟩

end Grammar
end LineLexer
