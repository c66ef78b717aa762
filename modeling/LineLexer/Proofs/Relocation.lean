import LineLexer.Proofs.FreshScan

set_option autoImplicit false

namespace LineLexer

variable (move : Position → Position)

def Span.moved (span : Span) : Span where
  start := move span.start
  stop := move span.stop

def Word.moved (word : Word) : Word :=
  { word with span := word.span.moved move }

def Token.moved (token : Token) : Token :=
  { token with span := token.span.moved move }

def Diagnostic.moved (diagnostic : Diagnostic) : Diagnostic :=
  { diagnostic with span := diagnostic.span.moved move }

def OpenLiteral.moved (literal : OpenLiteral) : OpenLiteral :=
  { literal with start := move literal.start }

def State.moved (state : State) : State :=
  { state with literal := state.literal.map (·.moved move) }

def Context.moved (context : Context) : Context :=
  { context with state := context.state.moved move }

def Effect.moved (effect : Effect) : Effect where
  context := effect.context.moved move
  token := effect.token.map (·.moved move)
  diagnostic := effect.diagnostic.map (·.moved move)

def Event.moved : Event → Event
  | line => line
  | word given => word (given.moved move)

def Run.moved (run : Run) : Run where
  context := run.context.moved move
  tokens := run.tokens.map (·.moved move)
  diagnostics := run.diagnostics.map (·.moved move)
  refused := run.refused.map (·.moved move)

theorem Run.moved_after (run : Run) (effect : Effect) :
    (run.after effect).moved move = (run.moved move).after (effect.moved move) := by
  simp [Run.moved, Run.after, Effect.moved, Option.toList_map]

theorem Grammar.ruleFor_moved (grammar : Grammar) (state : State) (text : Text) :
    grammar.ruleFor (state.moved move) text = grammar.ruleFor state text := by
  have same : grammar.applies (state.moved move) text = grammar.applies state text := by
    funext rule
    cases rule <;> simp [Grammar.applies, State.moved]
  rw [Grammar.ruleFor, Grammar.ruleFor, same]

namespace Context

variable (context : Context) (word : Word)

-- No rule looks at a position: rules only pass the positions of words on.
theorem apply_moved (rule : Rule) :
    (context.moved move).apply (word.moved move) rule = (context.apply word rule).moved move := by
  cases rule with
  | literalPart =>
    cases found : context.state.literal with
    | none => simp [apply, literalPart, moved, State.moved, found, Effect.moved]
    | some literal =>
      by_cases closes : word.text.closesLiteral = true <;>
        simp [apply, literalPart, moved, State.moved, found, Word.moved, closes, Effect.moved,
          close, keep, OpenLiteral.close, OpenLiteral.moved, Token.moved, Span.moved]
  | literalHead =>
    by_cases closes : 1 < word.text.length ∧ word.text.closesLiteral = true <;>
      simp [apply, literalHead, moved, State.moved, Word.moved, closes, Effect.moved,
        close, keep, OpenLiteral.close, OpenLiteral.moved, Token.moved, Span.moved]
  | declaration =>
    by_cases shape : word.text.isIdentifier = true <;>
      simp [apply, declaration, moved, Word.moved, shape, emit, report, Effect.moved, Word.token,
        Word.diagnostic, Token.moved, Diagnostic.moved]
  | use =>
    by_cases known : word.text ∈ context.declared <;>
      simp [apply, use, moved, Word.moved, known, emit, report, Effect.moved, Word.token,
        Word.diagnostic, Token.moved, Diagnostic.moved]
  | _ => rfl

theorem classify_moved (grammar : Grammar) :
    (context.moved move).classify grammar (word.moved move) =
      (context.classify grammar word).moved move := by
  have rule : grammar.ruleFor (context.moved move).state (word.moved move).text =
      grammar.ruleFor context.state word.text := grammar.ruleFor_moved move _ _
  unfold classify
  rw [rule, apply_moved]
  change (if context.state.expecting then _ else _) = _
  split <;> rfl

theorem run_moved (grammar : Grammar) (events : List Event) :
    (context.moved move).run grammar none (events.map (·.moved move)) =
      (context.run grammar none events).moved move := by
  induction events generalizing context with
  | nil => rfl
  | cons event rest ih =>
    cases event with
    | line => exact ih context.newLine
    | word word =>
      rw [List.map_cons, Event.moved, run_word, classify_moved, run_word, Run.moved_after, ← ih]
      rfl

end Context

end LineLexer
