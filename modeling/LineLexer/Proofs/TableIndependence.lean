import LineLexer.Proofs.DeclaredNames
import LineLexer.Proofs.FreshScan
import Mathlib.Data.List.Forall2

set_option autoImplicit false

namespace LineLexer

def Token.isUndeclared (token : Token) : Bool :=
  token.kind = .error ∧ token.value.isIdentifier

def Token.resolvedBy (table : Names) (token : Token) : Token :=
  if token.isUndeclared ∧ token.value ∈ table then { token with kind := .identifier } else token

def Diagnostic.isUndeclared (diagnostic : Diagnostic) : Bool :=
  diagnostic.problem = .undeclared

def Diagnostic.isResolvedBy (table : Names) (diagnostic : Diagnostic) : Bool :=
  diagnostic.isUndeclared ∧ diagnostic.word ∈ table

namespace Context

structure Wider (table : Names) (narrow wide : Context) : Prop where
  state : wide.state = narrow.state
  names (name : Text) : name ∈ wide.declared ↔ name ∈ narrow.declared ∨ name ∈ table

-- What a word does to both. Besides the tables, the effects differ only where the word is a name
-- that the wider table alone knows.
inductive Parallel (table : Names) (word : Word) : Effect → Effect → Prop where
  | same (narrow wide : Context) (token? : Option Token) (diagnostic? : Option Diagnostic)
      (wider : Wider table narrow wide)
      (unknown : diagnostic? = some (word.diagnostic .undeclared) → word.text ∉ table) :
    Parallel table word
      { context := narrow, token := token?, diagnostic := diagnostic? }
      { context := wide, token := token?, diagnostic := diagnostic? }
  | resolved (narrow wide : Context) (wider : Wider table narrow wide)
      (known : word.text ∈ table) :
    Parallel table word (narrow.report word .undeclared) (wide.emit word .identifier)

variable {table : Names} {narrow wide : Context}

namespace Wider

variable (wider : Wider table narrow wide)

include wider

theorem update (change : State → State) :
    Wider table { narrow with state := change narrow.state }
      { wide with state := change wide.state } where
  state := congrArg change wider.state
  names := wider.names

theorem declare (name : Text) :
    Wider table { narrow with declared := narrow.declared.insert name }
      { wide with declared := wide.declared.insert name } where
  state := wider.state
  names other := by simp [wider.names, or_assoc]

theorem emit (change : State → State) (word : Word) (kind : Kind) :
    Parallel table word
      (Context.emit { narrow with state := change narrow.state } word kind)
      (Context.emit { wide with state := change wide.state } word kind) :=
  .same _ _ _ _ (wider.update change) (by simp)

theorem close (literal : OpenLiteral) (word : Word) (stop : Position) :
    Parallel table word (narrow.close literal stop) (wide.close literal stop) :=
  .same _ _ _ _ (wider.update fun state => { state with literal := none }) (by simp)

theorem keep (literal : OpenLiteral) (word : Word) :
    Parallel table word (narrow.keep literal) (wide.keep literal) :=
  .same _ _ _ _ (wider.update fun state => { state with literal := some literal }) (by simp)

theorem use (word : Word) : Parallel table word (narrow.use word) (wide.use word) := by
  have names := wider.names word.text
  simp only [Context.use]
  by_cases declared : word.text ∈ narrow.declared
  next =>
    rw [if_pos declared, if_pos (names.mpr (.inl declared))]
    exact .same _ _ _ _ wider (by simp)
  next =>
    rw [if_neg declared]
    by_cases known : word.text ∈ table
    next =>
      rw [if_pos (names.mpr (.inr known))]
      exact .resolved _ _ wider known
    next =>
      rw [if_neg fun member => (names.mp member).elim declared known]
      exact .same _ _ _ _ wider fun _ => known

theorem apply (word : Word) (rule : Rule) :
    Parallel table word (narrow.apply word rule) (wide.apply word rule) := by
  cases rule with
  | directiveBody => exact wider.emit (fun state => { state with inDirective := false }) word _
  | directiveHead => exact wider.emit (fun state => { state with inDirective := true }) word _
  | literalPart =>
    simp only [Context.apply, literalPart, wider.state]
    split
    next => exact .same _ _ _ _ wider (by simp)
    next =>
      split
      next => exact wider.close _ word _
      next => exact wider.keep _ word
  | literalHead =>
    simp only [Context.apply, literalHead]
    split
    next => exact wider.close _ word _
    next => exact wider.keep _ word
  | commentHead => exact wider.emit (fun state => { state with inComment := true }) word _
  | reserved => exact wider.emit (fun state => { state with expecting := true }) word _
  | declaration =>
    simp only [Context.apply, declaration]
    split
    next => exact .same _ _ _ _ (wider.declare word.text) (by simp)
    next => exact .same _ _ _ _ wider (by simp [Word.diagnostic])
  | use => exact wider.use word
  | commentBody | directiveShape | delimiter | number | operator | unknown =>
    exact wider.emit id word _

theorem classify (word : Word) :
    Parallel table word (narrow.classify .standard word) (wide.classify .standard word) := by
  rw [classify_eq, classify_eq, wider.state]
  exact (wider.update fun state => { state with expecting := false }).apply word _

theorem newLine : Wider table narrow.newLine wide.newLine :=
  wider.update fun state => { state with inComment := false }

end Wider

theorem reports_undeclared (context : Context) (word : Word) :
    let effect := context.classify .standard word
    (effect.token = some (word.token .error) ∧ word.text.isIdentifier = true ∧
        effect.diagnostic = some (word.diagnostic .undeclared)) ∨
      (effect.token.any Token.isUndeclared = false ∧
        effect.diagnostic.any Diagnostic.isUndeclared = false) := by
  have way := context.classified word
  generalize context.classify .standard word = effect at way ⊢
  cases way with
  | undeclared left free notKeyword shape missing => exact .inl ⟨rfl, shape, rfl⟩
  | misplaced left expected shape =>
    right
    simp [Token.isUndeclared, shape, Diagnostic.isUndeclared, Word.diagnostic]
  | unknown left free notKeyword shape =>
    right
    simp [Token.isUndeclared, shape]
  | mark kind left shape =>
    right
    rcases Grammar.mark?_kind _ _ _ shape with rfl | rfl | rfl <;> simp [Token.isUndeclared]
  | _ =>
    right
    simp [Token.isUndeclared]

end Context

structure Step.Resolved (table : Names) (narrow wide : Step) : Prop where
  word : wide.word = narrow.word
  context : Context.Wider table narrow.effect.context wide.effect.context
  token : wide.effect.token = narrow.effect.token.map (·.resolvedBy table)
  diagnostic : wide.effect.diagnostic = narrow.effect.diagnostic.filter (!·.isResolvedBy table)
  undeclared : narrow.effect.token.any Token.isUndeclared =
    narrow.effect.diagnostic.any Diagnostic.isUndeclared

namespace Token

variable (table : Names) (token : Token)

theorem resolvedBy_of_unknown (unknown : token.value ∉ table) : token.resolvedBy table = token :=
  if_neg fun both => unknown both.2

theorem resolvedBy_of_other (other : token.isUndeclared = false) :
    token.resolvedBy table = token :=
  if_neg fun both => by simp [other] at both

end Token

namespace Context.Wider

variable {table : Names} {narrow wide : Context} (wider : Wider table narrow wide)

include wider

theorem step (word : Word) :
    Step.Resolved table { word, effect := narrow.classify .standard word }
      { word, effect := wide.classify .standard word } := by
  have reports := narrow.reports_undeclared word
  have parallel := wider.classify word
  generalize narrow.classify .standard word = effect at reports parallel ⊢
  generalize wide.classify .standard word = effect' at parallel ⊢
  cases parallel with
  | same narrow wide token? diagnostic? wider unknown =>
    rcases reports with ⟨rfl, shape, rfl⟩ | ⟨plain, quiet⟩
    · have missing := unknown rfl
      refine ⟨rfl, wider, ?_, ?_, ?_⟩
      · simp [Token.resolvedBy_of_unknown, missing]
      · simp [Option.filter, Diagnostic.isResolvedBy, Word.diagnostic, missing]
      · simp [Token.isUndeclared, Diagnostic.isUndeclared, Word.diagnostic, shape]
    · refine ⟨rfl, wider, ?_, ?_, plain.trans quiet.symm⟩
      · cases token? with
        | none => rfl
        | some token => simp [Token.resolvedBy_of_other table token plain]
      · cases diagnostic? with
        | none => rfl
        | some diagnostic =>
          have other : diagnostic.isUndeclared = false := quiet
          simp [Option.filter, Diagnostic.isResolvedBy, other]
  | resolved narrow wide wider known =>
    rcases reports with ⟨-, shape, -⟩ | ⟨-, quiet⟩
    · refine ⟨rfl, wider, ?_, ?_, ?_⟩
      · simp [report, Context.emit, Token.resolvedBy, Token.isUndeclared, shape, known, Word.token]
      · simp [report, Context.emit, Option.filter, Diagnostic.isResolvedBy,
          Diagnostic.isUndeclared, Word.diagnostic, known]
      · simp [report, Token.isUndeclared, Diagnostic.isUndeclared, Word.diagnostic, shape]
    · simp [report, Diagnostic.isUndeclared, Word.diagnostic] at quiet

theorem trace (events : List Event) :
    List.Forall₂ (Step.Resolved table) (narrow.trace .standard events)
      (wide.trace .standard events) := by
  induction events generalizing narrow wide with
  | nil => exact .nil
  | cons event rest ih =>
    cases event with
    | line => exact ih wider.newLine
    | word word =>
      have step := wider.step word
      exact .cons step (ih step.context)

theorem run (events : List Event) :
    let before := narrow.run .standard none events
    let after := wide.run .standard none events
    Wider table before.context after.context ∧
      after.tokens = before.tokens.map (·.resolvedBy table) ∧
      after.diagnostics = before.diagnostics.filter (!·.isResolvedBy table) := by
  induction events generalizing narrow wide with
  | nil => exact ⟨wider, rfl, rfl⟩
  | cons event rest ih =>
    cases event with
    | line => exact ih wider.newLine
    | word word =>
      have step := wider.step word
      obtain ⟨context, tokens, diagnostics⟩ := ih step.context
      have token := congrArg Option.toList step.token
      have diagnostic := congrArg Option.toList step.diagnostic
      simp only [Option.toList_map, Option.toList_filter] at token diagnostic
      simp [Run.after, context, tokens, diagnostics, token, diagnostic]

end Context.Wider

def Grammar.declares (grammar : Grammar) (state : State) (text : Text) : Bool :=
  grammar.ruleFor state text = .declaration ∧ text.isIdentifier

namespace Context

def additions (grammar : Grammar) : Context → List Event → List Text
  | _, [] => []
  | context, .line :: rest => additions grammar context.newLine rest
  | context, .word word :: rest =>
    (if grammar.declares context.state word.text then [word.text] else []) ++
      additions grammar (context.classify grammar word).context rest

theorem mem_declared_classify (context : Context) (word : Word) (name : Text) :
    name ∈ (context.classify .standard word).context.declared ↔
      name ∈ context.declared ∨
        name ∈ if Grammar.standard.declares context.state word.text then [word.text] else [] := by
  by_cases rule : Grammar.standard.ruleFor context.state word.text = .declaration
  next =>
    rw [classify_eq, rule]
    simp only [apply, declaration]
    by_cases shape : word.text.isIdentifier = true
    next => simp [emit, shape, Grammar.declares, rule, or_comm]
    next => simp [report, shape, Grammar.declares]
  next => simp [classify_declared _ _ _ rule, Grammar.declares, rule]

theorem mem_declared_run (context : Context) (events : List Event) (name : Text) :
    name ∈ (context.run .standard none events).context.declared ↔
      name ∈ context.declared ∨ name ∈ context.additions .standard events := by
  induction events generalizing context with
  | nil => simp [additions]
  | cons event rest ih =>
    cases event with
    | line => exact ih context.newLine
    | word word =>
      rw [run_word, additions, List.mem_append, ← or_assoc, ← mem_declared_classify]
      exact ih _

theorem Wider.additions {table : Names} {narrow wide : Context} (wider : Wider table narrow wide)
    (events : List Event) :
    wide.additions .standard events = narrow.additions .standard events := by
  induction events generalizing narrow wide with
  | nil => rfl
  | cons event rest ih =>
    cases event with
    | line => exact ih wider.newLine
    | word word => simp [Context.additions, wider.state, ih (wider.step word).context]

theorem run_trace (context : Context) (events : List Event) :
    (context.run .standard none events).tokens =
        (context.trace .standard events).filterMap (·.effect.token) ∧
      (context.run .standard none events).diagnostics =
        (context.trace .standard events).filterMap (·.effect.diagnostic) := by
  induction events generalizing context with
  | nil => exact ⟨rfl, rfl⟩
  | cons event rest ih =>
    cases event with
    | line => exact ih context.newLine
    | word word =>
      obtain ⟨tokens, diagnostics⟩ := ih (context.classify .standard word).context
      constructor
      · cases found : (context.classify .standard word).token <;>
          simp [trace, Run.after, tokens, found]
      · cases found : (context.classify .standard word).diagnostic <;>
          simp [trace, Run.after, diagnostics, found]

end Context

end LineLexer
