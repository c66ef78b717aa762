import LineLexer.Context

set_option autoImplicit false

namespace LineLexer

inductive Event where
  | line
  | word (word : Word)
  deriving DecidableEq, Repr

def Event.ofLines (number : Int) : List Text → List Event
  | [] => []
  | text :: rest => .line :: (text.words number).map .word ++ ofLines (number + 1) rest

def Text.events (source : Text) : List Event :=
  Event.ofLines 1 source.lines

structure Run where
  context : Context
  tokens : List Token := []
  diagnostics : List Diagnostic := []
  refused : Option Diagnostic := none
  deriving DecidableEq

def Run.after (run : Run) (effect : Effect) : Run :=
  { run with
    tokens := effect.token.toList ++ run.tokens
    diagnostics := effect.diagnostic.toList ++ run.diagnostics }

-- The error token of a refused diagnostic is withheld.
def Run.stopped (context : Context) (diagnostic : Diagnostic) : Run where
  context := context
  diagnostics := [diagnostic]
  refused := some diagnostic

def Context.run (grammar : Grammar) : Option Nat → Context → List Event → Run
  | _, context, [] => { context }
  | room, context, .line :: rest => Context.run grammar room context.newLine rest
  | room, context, .word word :: rest =>
    let effect := context.classify grammar word
    match effect.diagnostic, room with
    | some diagnostic, some 0 => .stopped effect.context diagnostic
    | some _, some (room + 1) => (Context.run grammar (some room) effect.context rest).after effect
    | _, room => (Context.run grammar room effect.context rest).after effect

structure Step where
  word : Word
  effect : Effect
  deriving DecidableEq

def Context.trace (grammar : Grammar) : Context → List Event → List Step
  | _, [] => []
  | context, .line :: rest => Context.trace grammar context.newLine rest
  | context, .word word :: rest =>
    let effect := context.classify grammar word
    { word, effect } :: Context.trace grammar effect.context rest

end LineLexer
