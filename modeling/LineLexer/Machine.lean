import LineLexer.Scanner

set_option autoImplicit false

namespace LineLexer

structure Registers where
  inDirective : Bool := false
  inString : Bool := false
  expecting : Bool := false
  inComment : Bool := false
  stringParts : List Text := []
  stringStart : Option Position := none
  deriving DecidableEq, Repr

structure Machine where
  source : Text
  file : Text := defaultFile
  sink : Option Sink := none
  registers : Registers := {}
  declared : Names := {}
  tokens : List Token := []
  diagnostics : List Diagnostic := []
  deriving DecidableEq

-- An action that halts leaves the machine as it had it by then.
abbrev Action := EStateM Halt Machine Unit

def Action.outcome (action : Action) (machine : Machine) : Machine × Option Halt :=
  match action.run machine with
  | .ok _ after => (after, none)
  | .error halt after => (after, some halt)

def Sink.isOver (sink : Sink) : Bool :=
  sink.limit.any (· < sink.received.length)

namespace Machine

def set (change : Registers → Registers) : Action :=
  modify fun machine => { machine with registers := change machine.registers }

def emit (kind : Kind) (word : Word) : Action :=
  modify fun machine => { machine with tokens := machine.tokens ++ [word.token kind] }

def report (problem : Problem) (word : Word) : Action := do
  let diagnostic := word.diagnostic problem
  modify fun machine => { machine with diagnostics := machine.diagnostics ++ [diagnostic] }
  match (← get).sink with
  | none => pure ()
  | some sink =>
    let sink := sink.receive [diagnostic]
    modify fun machine => { machine with sink := some sink }
    if sink.isOver then throw (.refused diagnostic)

section

-- The start that a string without one is given, from its end; `id` starts it there.
variable (fallback : Position → Position)

def closeString (stop : Position) : Action := do
  let registers := (← get).registers
  let start := registers.stringStart.getD (fallback stop)
  set fun registers => { registers with inString := false }
  set fun registers => { registers with stringParts := [] }
  set fun registers => { registers with stringStart := none }
  emit .string { text := registers.stringParts.flatten, span := { start, stop } }

def literalHead (word : Word) : Action := do
  set fun registers => { registers with inString := true }
  set fun registers => { registers with stringParts := [word.text] }
  set fun registers => { registers with stringStart := some word.span.start }
  if 1 < word.text.length ∧ word.text.closesLiteral then closeString fallback word.span.stop

def literalPart (word : Word) : Action := do
  set fun registers => { registers with stringParts := registers.stringParts ++ [word.text] }
  if word.text.closesLiteral then closeString fallback word.span.stop

def directiveHead (word : Word) : Action := do
  set fun registers => { registers with inDirective := true }
  emit .directive word

def directiveBody (word : Word) : Action := do
  set fun registers => { registers with inDirective := false }
  emit .directive word

def commentHead (word : Word) : Action := do
  set fun registers => { registers with inComment := true }
  emit .comment word

def declaration (word : Word) : Action := do
  set fun registers => { registers with expecting := false }
  if word.text.isIdentifier then
    modify fun machine => { machine with declared := machine.declared.insert word.text }
    emit .identifier word
  else
    report .expectedName word
    emit .error word

def reserved (word : Word) : Action := do
  set fun registers => { registers with expecting := true }
  emit .reserved word

def use (word : Word) : Action := do
  if word.text ∈ (← get).declared then
    emit .identifier word
  else
    report .undeclared word
    emit .error word

def handle (word : Word) : Rule → Action
  | .directiveBody => directiveBody word
  | .directiveHead => directiveHead word
  | .literalPart => literalPart fallback word
  | .literalHead => literalHead fallback word
  | .commentBody => emit .comment word
  | .directiveShape => emit .directive word
  | .commentHead => commentHead word
  | .delimiter => emit .delimiter word
  | .number => emit .number word
  | .operator => emit .operator word
  | .declaration => declaration word
  | .reserved => reserved word
  | .use => use word
  | .unknown => emit .error word

def applies (machine : Machine) (text : Text) : Rule → Bool
  | .directiveBody => machine.registers.inDirective
  | .literalPart => machine.registers.inString
  | .commentBody => machine.registers.inComment
  | .declaration => machine.registers.expecting
  | rule => Grammar.standard.applies {} text rule

def classify (word : Word) : Action := do
  let before ← get
  match Grammar.standard.rules.find? (before.applies word.text) with
  | some rule => handle fallback word rule
  | none => pure ()
  if before.registers.expecting then set fun registers => { registers with expecting := false }

def feed : List Event → Action
  | [] => pure ()
  | .line :: rest => do
    set fun registers => { registers with inComment := false }
    feed rest
  | .word word :: rest => do
    classify fallback word
    feed rest

def scan : Action := do
  let machine ← get
  match machine.source.inputError? with
  | some error => throw (.rejected error)
  | none => feed fallback machine.source.events

end

end Machine
end LineLexer
