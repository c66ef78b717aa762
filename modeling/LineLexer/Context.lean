import LineLexer.Diagnostic
import LineLexer.Grammar
import LineLexer.Names
import LineLexer.Token

set_option autoImplicit false

namespace LineLexer

structure OpenLiteral where
  start : Position
  parts : List Text
  deriving DecidableEq, Repr

def OpenLiteral.close (literal : OpenLiteral) (stop : Position) : Token where
  value := literal.parts.flatten
  kind := .string
  span := { start := literal.start, stop }

structure State where
  inDirective : Bool := false
  literal : Option OpenLiteral := none
  expecting : Bool := false
  inComment : Bool := false
  deriving DecidableEq, Repr

structure Context where
  state : State := {}
  declared : Names := {}
  deriving DecidableEq

structure Effect where
  context : Context
  token : Option Token := none
  diagnostic : Option Diagnostic := none
  deriving DecidableEq

def Word.token (word : Word) (kind : Kind) : Token where
  value := word.text
  kind := kind
  span := word.span

def Word.diagnostic (word : Word) (problem : Problem) : Diagnostic where
  problem := problem
  word := word.text
  span := word.span

def Grammar.applies (grammar : Grammar) (state : State) (text : Text) : Rule → Bool
  | .directiveBody => state.inDirective
  | .directiveHead => text.opensDirective
  | .literalPart => state.literal.isSome
  | .literalHead => text.opensLiteral
  | .commentBody => state.inComment
  | .directiveShape => text.isDirective
  | .commentHead => text.opensComment
  | .delimiter => text.isDelimiter
  | .number => grammar.isNumber text
  | .operator => grammar.isOperator text
  | .declaration => state.expecting
  | .reserved => grammar.isReserved text
  | .use => text.isIdentifier
  | .unknown => true

def Grammar.ruleFor (grammar : Grammar) (state : State) (text : Text) : Rule :=
  (grammar.rules.find? (grammar.applies state text)).getD .unknown

namespace Context

def emit (context : Context) (word : Word) (kind : Kind) : Effect where
  context := context
  token := some (word.token kind)

def report (context : Context) (word : Word) (problem : Problem) : Effect where
  context := context
  token := some (word.token .error)
  diagnostic := some (word.diagnostic problem)

def keep (context : Context) (literal : OpenLiteral) : Effect where
  context := { context with state.literal := some literal }

def close (context : Context) (literal : OpenLiteral) (stop : Position) : Effect where
  context := { context with state.literal := none }
  token := some (literal.close stop)

def directiveBody (context : Context) (word : Word) : Effect :=
  Context.emit { context with state.inDirective := false } word .directive

def directiveHead (context : Context) (word : Word) : Effect :=
  Context.emit { context with state.inDirective := true } word .directive

def literalPart (context : Context) (word : Word) : Effect :=
  match context.state.literal with
  | none => { context }
  | some literal =>
    let longer := { literal with parts := literal.parts ++ [word.text] }
    if word.text.closesLiteral then context.close longer word.span.stop else context.keep longer

-- A lone quotation mark opens a literal and cannot close it too.
def literalHead (context : Context) (word : Word) : Effect :=
  let literal : OpenLiteral := { start := word.span.start, parts := [word.text] }
  if 1 < word.text.length ∧ word.text.closesLiteral then context.close literal word.span.stop
  else context.keep literal

def commentHead (context : Context) (word : Word) : Effect :=
  Context.emit { context with state.inComment := true } word .comment

def declaration (context : Context) (word : Word) : Effect :=
  if word.text.isIdentifier then
    Context.emit { context with declared := context.declared.insert word.text } word .identifier
  else context.report word .expectedName

def reserved (context : Context) (word : Word) : Effect :=
  Context.emit { context with state.expecting := true } word .reserved

def use (context : Context) (word : Word) : Effect :=
  if word.text ∈ context.declared then context.emit word .identifier
  else context.report word .undeclared

def apply (context : Context) (word : Word) : Rule → Effect
  | .directiveBody => context.directiveBody word
  | .directiveHead => context.directiveHead word
  | .literalPart => context.literalPart word
  | .literalHead => context.literalHead word
  | .commentBody => context.emit word .comment
  | .directiveShape => context.emit word .directive
  | .commentHead => context.commentHead word
  | .delimiter => context.emit word .delimiter
  | .number => context.emit word .number
  | .operator => context.emit word .operator
  | .declaration => context.declaration word
  | .reserved => context.reserved word
  | .use => context.use word
  | .unknown => context.emit word .error

def classify (grammar : Grammar) (context : Context) (word : Word) : Effect :=
  let effect := context.apply word (grammar.ruleFor context.state word.text)
  if context.state.expecting then { effect with context.state.expecting := false } else effect

def newLine (context : Context) : Context :=
  { context with state.inComment := false }

end Context
end LineLexer
