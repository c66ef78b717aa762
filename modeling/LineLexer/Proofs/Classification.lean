import LineLexer.Context

set_option autoImplicit false

namespace LineLexer

@[simp] theorem Word.token_value (word : Word) (kind : Kind) :
    (word.token kind).value = word.text := rfl

@[simp] theorem Word.token_kind (word : Word) (kind : Kind) : (word.token kind).kind = kind := rfl

@[simp] theorem Word.token_span (word : Word) (kind : Kind) :
    (word.token kind).span = word.span := rfl

@[simp] theorem OpenLiteral.close_kind (literal : OpenLiteral) (stop : Position) :
    (literal.close stop).kind = .string := rfl

namespace State

def inString (state : State) : Bool :=
  state.literal.isSome

def stringParts (state : State) : List Text :=
  (state.literal.map OpenLiteral.parts).getD []

def stringStart (state : State) : Option Position :=
  state.literal.map OpenLiteral.start

end State

def Grammar.mark? (grammar : Grammar) (text : Text) : Option Kind :=
  if text.isDelimiter then some .delimiter
  else if grammar.isNumber text then some .number
  else if grammar.isOperator text then some .operator
  else none

theorem Grammar.mark?_kind (grammar : Grammar) (text : Text) (kind : Kind)
    (shape : grammar.mark? text = some kind) :
    kind = .delimiter ∨ kind = .number ∨ kind = .operator := by
  unfold Grammar.mark? at shape
  grind

def Context.settled (context : Context) : Context :=
  { context with state.expecting := false }

namespace Context

variable (context : Context)

@[simp] theorem settled_inDirective :
    context.settled.state.inDirective = context.state.inDirective := rfl

@[simp] theorem settled_literal : context.settled.state.literal = context.state.literal := rfl

@[simp] theorem settled_expecting : context.settled.state.expecting = false := rfl

@[simp] theorem settled_inComment :
    context.settled.state.inComment = context.state.inComment := rfl

@[simp] theorem settled_declared : context.settled.declared = context.declared := rfl

theorem settled_of_free (free : context.state.expecting = false) : context.settled = context := by
  obtain ⟨⟨inDirective, literal, expecting, inComment⟩, declared⟩ := context
  simpa [settled] using free.symm

end Context

def OpenLiteral.extend (literal : OpenLiteral) (text : Text) : OpenLiteral :=
  { literal with parts := literal.parts ++ [text] }

def Word.opening (word : Word) : OpenLiteral where
  start := word.span.start
  parts := []

structure Undirected (context : Context) (word : Word) : Prop where
  outside : context.state.inDirective = false
  notHead : word.text.opensDirective = false

structure Unquoted (context : Context) (word : Word) : Prop extends Undirected context word where
  closed : context.state.literal = none
  notQuote : word.text.opensLiteral = false

structure Uncommented (context : Context) (word : Word) : Prop extends Unquoted context word where
  noComment : context.state.inComment = false
  notSlashes : word.text.opensComment = false

structure Unmarked (grammar : Grammar) (context : Context) (word : Word) : Prop
    extends Uncommented context word where
  noMark : grammar.mark? word.text = none

inductive Classified (grammar : Grammar) (context : Context) (word : Word) : Effect → Prop where
  | directiveBody (inside : context.state.inDirective = true) :
    Classified grammar context word
      { context := { context.settled with state.inDirective := false }
        token := some (word.token .directive) }
  | directiveHead (outside : context.state.inDirective = false)
      (opens : word.text.opensDirective = true) :
    Classified grammar context word
      { context := { context.settled with state.inDirective := true }
        token := some (word.token .directive) }
  | literalPart (literal : OpenLiteral) (left : Undirected context word)
      (found : context.state.literal = some literal) (stays : word.text.closesLiteral = false) :
    Classified grammar context word
      { context := { context.settled with state.literal := some (literal.extend word.text) } }
  | literalEnd (literal : OpenLiteral) (left : Undirected context word)
      (found : context.state.literal = some literal) (closes : word.text.closesLiteral = true) :
    Classified grammar context word
      { context := { context.settled with state.literal := none }
        token := some ((literal.extend word.text).close word.span.stop) }
  | literalHead (left : Undirected context word) (closed : context.state.literal = none)
      (opens : word.text.opensLiteral = true)
      (stays : word.text.closesLiteral = true → word.text.length ≤ 1) :
    Classified grammar context word
      { context := { context.settled with
          state.literal := some { start := word.span.start, parts := [word.text] } } }
  | literalWhole (left : Undirected context word) (closed : context.state.literal = none)
      (opens : word.text.opensLiteral = true) (long : 1 < word.text.length)
      (closes : word.text.closesLiteral = true) :
    Classified grammar context word
      { context := context.settled, token := some (word.token .string) }
  | commentBody (left : Unquoted context word) (inside : context.state.inComment = true) :
    Classified grammar context word
      { context := context.settled, token := some (word.token .comment) }
  | commentHead (left : Unquoted context word) (outside : context.state.inComment = false)
      (opens : word.text.opensComment = true) :
    Classified grammar context word
      { context := { context.settled with state.inComment := true }
        token := some (word.token .comment) }
  | mark (kind : Kind) (left : Uncommented context word)
      (shape : grammar.mark? word.text = some kind) :
    Classified grammar context word { context := context.settled, token := some (word.token kind) }
  | declared (left : Unmarked grammar context word) (expected : context.state.expecting = true)
      (shape : word.text.isIdentifier = true) :
    Classified grammar context word
      { context := { context.settled with declared := context.declared.insert word.text }
        token := some (word.token .identifier) }
  | misplaced (left : Unmarked grammar context word) (expected : context.state.expecting = true)
      (shape : word.text.isIdentifier = false) :
    Classified grammar context word
      { context := context.settled, token := some (word.token .error)
        diagnostic := some (word.diagnostic .expectedName) }
  | reserved (left : Unmarked grammar context word) (free : context.state.expecting = false)
      (keyword : grammar.isReserved word.text = true) :
    Classified grammar context word
      { context := { context with state.expecting := true }
        token := some (word.token .reserved) }
  | known (left : Unmarked grammar context word) (free : context.state.expecting = false)
      (notKeyword : grammar.isReserved word.text = false)
      (shape : word.text.isIdentifier = true) (member : word.text ∈ context.declared) :
    Classified grammar context word
      { context := context.settled, token := some (word.token .identifier) }
  | undeclared (left : Unmarked grammar context word) (free : context.state.expecting = false)
      (notKeyword : grammar.isReserved word.text = false)
      (shape : word.text.isIdentifier = true) (missing : word.text ∉ context.declared) :
    Classified grammar context word
      { context := context.settled, token := some (word.token .error)
        diagnostic := some (word.diagnostic .undeclared) }
  | unknown (left : Unmarked grammar context word) (free : context.state.expecting = false)
      (notKeyword : grammar.isReserved word.text = false)
      (shape : word.text.isIdentifier = false) :
    Classified grammar context word
      { context := context.settled, token := some (word.token .error) }

theorem Text.isDirective_eq_false (text : Text) (notHead : text.opensDirective = false) :
    text.isDirective = false := by
  unfold Text.isDirective
  split
  next => contradiction
  next => rfl

theorem find?_cons_getD {A : Type} (holds : A → Bool) (head fallback : A) (rest : List A) :
    ((head :: rest).find? holds).getD fallback =
      if holds head then head else (rest.find? holds).getD fallback := by
  cases found : holds head <;> simp [found]

-- `directiveShape` is not in the cascade: `directiveHead` shadows it.
theorem Grammar.ruleFor_standard (state : State) (text : Text) :
    Grammar.standard.ruleFor state text =
      if state.inDirective then .directiveBody
      else if text.opensDirective then .directiveHead
      else if state.literal.isSome then .literalPart
      else if text.opensLiteral then .literalHead
      else if state.inComment then .commentBody
      else if text.opensComment then .commentHead
      else if text.isDelimiter then .delimiter
      else if Grammar.standard.isNumber text then .number
      else if Grammar.standard.isOperator text then .operator
      else if state.expecting then .declaration
      else if Grammar.standard.isReserved text then .reserved
      else if text.isIdentifier then .use
      else .unknown := by
  have rules : Grammar.standard.rules =
      [.directiveBody, .directiveHead, .literalPart, .literalHead, .commentBody, .directiveShape,
        .commentHead, .delimiter, .number, .operator, .declaration, .reserved, .use, .unknown] :=
    rfl
  simp only [Grammar.ruleFor, rules, find?_cons_getD, Grammar.applies, List.find?_nil,
    Option.getD_none, ite_self]
  by_cases head : text.opensDirective = true
  next => simp [head]
  next => simp [head, text.isDirective_eq_false (by simpa using head)]

namespace Context

-- No rule but `reserved` looks at the place for a name, and only where there is none: so the
-- place may as well be used up before the rule is applied.
theorem classify_eq (context : Context) (word : Word) :
    context.classify .standard word =
      context.settled.apply word (Grammar.standard.ruleFor context.state word.text) := by
  unfold classify
  by_cases expected : context.state.expecting = true
  next =>
    rw [if_pos expected]
    generalize chosen : Grammar.standard.ruleFor context.state word.text = rule
    cases rule with
    | reserved | use =>
      -- These two rules come after `declaration`, which takes every word here.
      rw [Grammar.ruleFor_standard] at chosen
      grind
    | literalPart =>
      simp only [apply, literalPart, settled]
      split
      next => rfl
      next => split <;> rfl
    | literalHead =>
      simp only [apply, literalHead]
      split <;> rfl
    | declaration =>
      simp only [apply, declaration]
      split <;> rfl
    | _ => rfl
  next =>
    have free : context.state.expecting = false := by simpa using expected
    rw [if_neg expected, settled_of_free context free]

theorem classified_literalPart (context : Context) (word : Word) (literal : OpenLiteral)
    (left : Undirected context word) (found : context.state.literal = some literal) :
    Classified .standard context word (context.settled.apply word .literalPart) := by
  have same : context.settled.state.literal = some literal := found
  simp only [apply, literalPart, same]
  cases closes : word.text.closesLiteral with
  | true => exact .literalEnd literal left found closes
  | false => exact .literalPart literal left found closes

theorem close_whole (context : Context) (word : Word) (closed : context.state.literal = none) :
    context.close { start := word.span.start, parts := [word.text] } word.span.stop =
      context.emit word .string := by
  obtain ⟨⟨inDirective, literal, expecting, inComment⟩, declared⟩ := context
  obtain rfl : literal = none := closed
  simp [close, OpenLiteral.close, emit, Word.token]

theorem classified_literalHead (context : Context) (word : Word)
    (left : Undirected context word) (closed : context.state.literal = none)
    (opens : word.text.opensLiteral = true) :
    Classified .standard context word (context.settled.apply word .literalHead) := by
  simp only [apply, literalHead]
  split
  next both =>
    rw [close_whole context.settled word closed]
    exact .literalWhole left closed opens both.1 both.2
  next stays =>
    refine .literalHead left closed opens ?_
    intro closes
    exact Nat.le_of_not_lt fun long => stays ⟨long, closes⟩

theorem classified_name (context : Context) (word : Word)
    (left : Unmarked .standard context word) :
    Classified .standard context word
      (context.settled.apply word
        (if context.state.expecting then .declaration
          else if Grammar.standard.isReserved word.text then .reserved
          else if word.text.isIdentifier then .use
          else .unknown)) := by
  cases expected : context.state.expecting with
  | true =>
    simp only [if_true, apply, declaration]
    cases shape : word.text.isIdentifier with
    | true => exact .declared left expected shape
    | false => exact .misplaced left expected shape
  | false =>
  cases keyword : Grammar.standard.isReserved word.text with
  | true =>
    rw [settled_of_free context expected]
    exact .reserved left expected keyword
  | false =>
  cases shape : word.text.isIdentifier with
  | true =>
    simp only [Bool.false_eq_true, if_true, if_false, apply, use]
    split
    next member => exact .known left expected keyword shape member
    next missing => exact .undeclared left expected keyword shape missing
  | false => exact .unknown left expected keyword shape

theorem classified (context : Context) (word : Word) :
    Classified .standard context word (context.classify .standard word) := by
  rw [classify_eq, Grammar.ruleFor_standard]
  cases outside : context.state.inDirective with
  | true => exact .directiveBody outside
  | false =>
  cases notHead : word.text.opensDirective with
  | true => exact .directiveHead outside notHead
  | false =>
  cases closed : context.state.literal with
  | some literal => exact classified_literalPart context word literal ⟨outside, notHead⟩ closed
  | none =>
  cases notQuote : word.text.opensLiteral with
  | true => exact classified_literalHead context word ⟨outside, notHead⟩ closed notQuote
  | false =>
  cases noComment : context.state.inComment with
  | true => exact .commentBody ⟨⟨outside, notHead⟩, closed, notQuote⟩ noComment
  | false =>
  cases notSlashes : word.text.opensComment with
  | true => exact .commentHead ⟨⟨outside, notHead⟩, closed, notQuote⟩ noComment notSlashes
  | false =>
  have left : Uncommented context word :=
    ⟨⟨⟨outside, notHead⟩, closed, notQuote⟩, noComment, notSlashes⟩
  cases delimiter : word.text.isDelimiter with
  | true => exact .mark .delimiter left (by simp [Grammar.mark?, delimiter])
  | false =>
  cases number : Grammar.standard.isNumber word.text with
  | true => exact .mark .number left (by simp [Grammar.mark?, delimiter, number])
  | false =>
  cases operator : Grammar.standard.isOperator word.text with
  | true => exact .mark .operator left (by simp [Grammar.mark?, delimiter, number, operator])
  | false =>
  exact classified_name context word
    ⟨left, by simp [Grammar.mark?, delimiter, number, operator]⟩

end Context

theorem Context.of_diagnostic (context : Context) (word : Word) (diagnostic : Diagnostic)
    (found : (context.classify .standard word).diagnostic = some diagnostic) :
    (context.classify .standard word).context = context.settled ∧
      (context.classify .standard word).token = some (word.token .error) ∧
      ∃ problem, diagnostic = word.diagnostic problem := by
  have way := context.classified word
  generalize context.classify .standard word = effect at way found ⊢
  cases way with
  | misplaced | undeclared => exact ⟨rfl, rfl, _, (Option.some.inj found).symm⟩
  | _ => simp at found

inductive Placed (word : Word) : Option OpenLiteral → Option Token → Option OpenLiteral → Prop where
  | directive (literal : Option OpenLiteral) :
    Placed word literal (some (word.token .directive)) literal
  | own (kind : Kind) (notDirective : kind ≠ .directive) (notString : kind ≠ .string) :
    Placed word none (some (word.token kind)) none
  | added (literal : Option OpenLiteral) :
    Placed word literal none (some ((literal.getD word.opening).extend word.text))
  | closed (literal : Option OpenLiteral) :
    Placed word literal
      (some (((literal.getD word.opening).extend word.text).close word.span.stop)) none

theorem Word.opening_close (word : Word) :
    (word.opening.extend word.text).close word.span.stop = word.token .string := by
  simp [Word.opening, OpenLiteral.extend, OpenLiteral.close, Word.token]

theorem Context.placed (context : Context) (word : Word) :
    Placed word context.state.literal (context.classify .standard word).token
      (context.classify .standard word).context.state.literal := by
  have own (closed : context.state.literal = none) (kind : Kind) (notDirective : kind ≠ .directive)
      (notString : kind ≠ .string) :
      Placed word context.state.literal (some (word.token kind)) context.state.literal := by
    rw [closed]
    exact .own kind notDirective notString
  have way := context.classified word
  generalize context.classify .standard word = effect at way ⊢
  cases way with
  | directiveBody | directiveHead => exact .directive _
  | literalPart literal left found stays =>
    rw [found]
    exact .added (some literal)
  | literalEnd literal left found closes =>
    rw [found]
    exact .closed (some literal)
  | literalHead left closed opens stays =>
    rw [closed]
    exact .added none
  | literalWhole left closed opens long closes =>
    simp only [settled_literal, closed, ← word.opening_close]
    exact .closed none
  | commentBody left | commentHead left => exact own left.closed .comment (by simp) (by simp)
  | mark kind left shape =>
    rcases Grammar.mark?_kind _ _ _ shape with rfl | rfl | rfl <;>
      exact own left.closed _ (by simp) (by simp)
  | declared left | known left => exact own left.closed .identifier (by simp) (by simp)
  | misplaced left | undeclared left | unknown left =>
    exact own left.closed .error (by simp) (by simp)
  | reserved left => exact own left.closed .reserved (by simp) (by simp)

end LineLexer
