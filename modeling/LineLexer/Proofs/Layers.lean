import LineLexer.Proofs.FreshScan
import LineLexer.Proofs.SourceWords
import Mathlib.Data.List.TakeWhile

set_option autoImplicit false

namespace LineLexer

inductive Slot where
  | pending (word : Word)
  | token (token : Token)
  | absorbed
  deriving DecidableEq

namespace Slot

def word? : Slot → Option Word
  | pending word => some word
  | token _ => none
  | absorbed => none

def closing? (slot : Slot) : Option Word :=
  slot.word?.filter fun word => word.text.closesLiteral

def absorb : Slot → Slot
  | pending _ => absorbed
  | token given => token given
  | absorbed => absorbed

end Slot

namespace Layer

def directives (afterHead : Bool) : List Word → List Slot
  | [] => []
  | word :: rest =>
    let head := !afterHead && word.text.opensDirective
    (if afterHead || head then .token (word.token .directive) else .pending word) ::
      directives head rest

def joined (words : List Word) (span : Span) : Token where
  value := words.flatMap Word.text
  kind := .string
  span := span

-- A literal is closed by the next word that ends with a quotation mark; directives in between stay
-- where they are.
def literals : List Slot → List Slot
  | [] => []
  | .pending word :: rest =>
    if word.text.opensLiteral then
      if 1 < word.text.length ∧ word.text.closesLiteral then
        .token (joined [word] word.span) :: literals rest
      else
        let inside := rest.takeWhile fun slot => slot.closing?.isNone
        let after := (rest.dropWhile fun slot => slot.closing?.isNone).tail
        .absorbed :: inside.map Slot.absorb ++
          match rest.findSome? Slot.closing? with
          | some last =>
            .token (joined (word :: inside.filterMap Slot.word? ++ [last])
              { start := word.span.start, stop := last.span.stop }) :: literals after
          | none => []
    else .pending word :: literals rest
  | slot :: rest => slot :: literals rest
termination_by slots => slots.length
decreasing_by
  all_goals
    have shorter := List.length_dropWhile_le (fun slot : Slot => slot.closing?.isNone) rest
    simp only [List.length_cons, List.length_tail]
    omega

-- `earlier` are the words before that are left, of any line.
def comments (earlier : List Word) : List Slot → List Slot
  | [] => []
  | .pending word :: rest =>
    let commented := (earlier ++ [word]).any fun other =>
      other.span.start.line == word.span.start.line && other.text.opensComment
    (if commented then .token (word.token .comment) else .pending word) ::
      comments (earlier ++ [word]) rest
  | slot :: rest => slot :: comments earlier rest

def kindOf (afterReserved : Bool) (declared : List Text) (text : Text) : Kind :=
  if text.isDelimiter then .delimiter
  else if Grammar.standard.isNumber text then .number
  else if Grammar.standard.isOperator text then .operator
  else if afterReserved then if text.isIdentifier then .identifier else .error
  else if Grammar.standard.isReserved text then .reserved
  else if text.isIdentifier && declared.contains text then .identifier
  else .error

def names (afterReserved : Bool) (declared : List Text) : List Slot → List Token
  | [] => []
  | .pending word :: rest =>
    let kind := kindOf afterReserved declared word.text
    word.token kind ::
      names (decide (kind = .reserved))
        (if afterReserved ∧ kind = .identifier then declared ++ [word.text] else declared) rest
  | .token token :: rest => token :: names false declared rest
  | .absorbed :: rest => names false declared rest

end Layer

def Text.layeredTokens (source : Text) : List Token :=
  Layer.names false [] (Layer.comments [] (Layer.literals
    (Layer.directives false source.sourceWords)))

namespace Slot

@[simp] theorem closing?_token (given : Token) : (token given).closing? = none := rfl

theorem closing?_pending (word : Word) :
    (pending word).closing? = if word.text.closesLiteral then some word else none := by
  simp [closing?, word?, Option.filter]

end Slot

namespace Layer

def resume : Option OpenLiteral → List Slot → List Slot
  | none, slots => literals slots
  | some literal, slots =>
    let inside := slots.takeWhile fun slot => slot.closing?.isNone
    let after := (slots.dropWhile fun slot => slot.closing?.isNone).tail
    inside.map Slot.absorb ++
      match slots.findSome? Slot.closing? with
      | some last =>
        .token
          { value :=
              literal.parts.flatten ++ (inside.filterMap Slot.word? ++ [last]).flatMap Word.text
            kind := .string
            span := { start := literal.start, stop := last.span.stop } } :: literals after
      | none => []

variable (word : Word) (rest : List Slot)

@[simp] theorem resume_token (opened : Option OpenLiteral) (token : Token) :
    resume opened (.token token :: rest) = .token token :: resume opened rest := by
  cases opened with
  | none => simp [resume, literals]
  | some literal =>
    simp [resume, List.takeWhile_cons, List.dropWhile_cons, List.findSome?_cons,
      List.filterMap_cons, Slot.absorb, Slot.word?]

theorem resume_part (literal : OpenLiteral) (stays : word.text.closesLiteral = false) :
    resume (some literal) (.pending word :: rest) =
      .absorbed :: resume (some (literal.extend word.text)) rest := by
  simp [resume, Slot.closing?_pending, stays, Slot.absorb, Slot.word?, OpenLiteral.extend]

theorem resume_end (literal : OpenLiteral) (closes : word.text.closesLiteral = true) :
    resume (some literal) (.pending word :: rest) =
      .token ((literal.extend word.text).close word.span.stop) :: resume none rest := by
  simp [resume, Slot.closing?_pending, closes, OpenLiteral.extend, OpenLiteral.close]

theorem resume_head (opens : word.text.opensLiteral = true)
    (stays : word.text.closesLiteral = true → word.text.length ≤ 1) :
    resume none (.pending word :: rest) =
      .absorbed :: resume (some { start := word.span.start, parts := [word.text] }) rest := by
  have short : ¬ (1 < word.text.length ∧ word.text.closesLiteral = true) :=
    fun both => absurd both.1 (Nat.not_lt.mpr (stays both.2))
  simp [resume, literals, opens, short, joined]

theorem resume_whole (opens : word.text.opensLiteral = true) (long : 1 < word.text.length)
    (closes : word.text.closesLiteral = true) :
    resume none (.pending word :: rest) = .token (word.token .string) :: resume none rest := by
  simp [resume, literals, opens, long, closes, joined, Word.token]

theorem resume_pending (notQuote : word.text.opensLiteral = false) :
    resume none (.pending word :: rest) = .pending word :: resume none rest := by
  simp [resume, literals, notQuote]

theorem resume_nil (opened : Option OpenLiteral) : resume opened [] = [] := by
  cases opened <;> simp [resume, literals]

structure Agrees (context : Context) (number : Int) (earlier : List Word) (declared : List Text) :
    Prop where
  above : ∀ word ∈ earlier, word.span.start.line ≤ number
  comment : context.state.inComment = true ↔
    ∃ word ∈ earlier, word.span.start.line = number ∧ word.text.opensComment = true
  names (name : Text) : name ∈ context.declared ↔ name ∈ declared

variable {context after : Context} {number : Int} {earlier : List Word} {declared : List Text}

theorem Agrees.newLine (agrees : Agrees context number earlier declared) :
    Agrees context.newLine (number + 1) earlier declared where
  above word member := by
    have bound := agrees.above word member
    omega
  comment := by
    simp only [Context.newLine, Bool.false_eq_true, false_iff, not_exists, not_and]
    intro word member same
    have bound := agrees.above word member
    omega
  names := agrees.names

theorem Agrees.same (agrees : Agrees context number earlier declared)
    (comment : after.state.inComment = context.state.inComment)
    (names : after.declared = context.declared) : Agrees after number earlier declared where
  above := agrees.above
  comment := by rw [comment, agrees.comment]
  names := by rw [names]; exact agrees.names

theorem Agrees.push (agrees : Agrees context number earlier declared) {word : Word}
    (standing : word.span.start.line = number)
    (comment : after.state.inComment = (context.state.inComment || word.text.opensComment))
    (names : after.declared = context.declared) :
    Agrees after number (earlier ++ [word]) declared where
  above other member := by
    rcases List.mem_append.mp member with before | last
    · exact agrees.above other before
    · obtain rfl := List.mem_singleton.mp last
      omega
  comment := by
    rw [comment, Bool.or_eq_true, agrees.comment]
    simp [or_and_right, exists_or, standing]
  names := by rw [names]; exact agrees.names

theorem Agrees.declare (agrees : Agrees context number earlier declared) {word : Word}
    (standing : word.span.start.line = number) (left : Uncommented context word) :
    Agrees { context.settled with declared := context.declared.insert word.text } number
      (earlier ++ [word]) (declared ++ [word.text]) := by
  have pushed : Agrees context.settled number (earlier ++ [word]) declared :=
    agrees.push standing (by simp [left.notSlashes]) rfl
  exact ⟨pushed.above, pushed.comment, by simp [agrees.names, or_comm]⟩

theorem comments_pending (agrees : Agrees context number earlier declared)
    (standing : word.span.start.line = number) :
    comments earlier (.pending word :: rest) =
      (if context.state.inComment || word.text.opensComment then .token (word.token .comment)
        else .pending word) :: comments (earlier ++ [word]) rest := by
  have commented : ((earlier ++ [word]).any fun other =>
      other.span.start.line == word.span.start.line && other.text.opensComment) =
        (context.state.inComment || word.text.opensComment) := by
    rw [Bool.eq_iff_iff, Bool.or_eq_true, agrees.comment]
    simp [standing]
  simp only [comments, commented]

def tokensFrom (context : Context) (earlier : List Word) (declared : List Text)
    (words : List Word) : List Token :=
  names context.state.expecting declared
    (comments earlier
      (resume context.state.literal (directives context.state.inDirective words)))

theorem directives_undirected (left : Undirected context word) (words : List Word) :
    directives context.state.inDirective (word :: words) =
      .pending word :: directives false words := by
  simp [directives, left.outside, left.notHead]

theorem tokensFrom_unquoted (agrees : Agrees context number earlier declared)
    (standing : word.span.start.line = number) (left : Unquoted context word) (words : List Word) :
    tokensFrom context earlier declared (word :: words) =
      names context.state.expecting declared
        ((if context.state.inComment || word.text.opensComment then .token (word.token .comment)
          else .pending word) ::
          comments (earlier ++ [word]) (resume none (directives false words))) := by
  rw [tokensFrom, directives_undirected word left.toUndirected, left.closed,
    resume_pending word _ left.notQuote, comments_pending word _ agrees standing]

theorem tokensFrom_uncommented (agrees : Agrees context number earlier declared)
    (standing : word.span.start.line = number) (left : Uncommented context word) (kind : Kind)
    (found : kindOf context.state.expecting declared word.text = kind) (words : List Word) :
    tokensFrom context earlier declared (word :: words) =
      word.token kind ::
        names (decide (kind = .reserved))
          (if context.state.expecting ∧ kind = .identifier then declared ++ [word.text]
            else declared)
          (comments (earlier ++ [word]) (resume none (directives false words))) := by
  rw [tokensFrom_unquoted word agrees standing left.toUnquoted, left.noComment, left.notSlashes]
  simp [names, found]

theorem kindOf_mark (afterReserved : Bool) (declared : List Text) (text : Text) (kind : Kind)
    (shape : Grammar.standard.mark? text = some kind) :
    kindOf afterReserved declared text = kind := by
  unfold Grammar.mark? at shape
  unfold kindOf
  grind

theorem kindOf_unmarked (afterReserved : Bool) (declared : List Text) (text : Text)
    (noMark : Grammar.standard.mark? text = none) :
    kindOf afterReserved declared text =
      if afterReserved then if text.isIdentifier then .identifier else .error
      else if Grammar.standard.isReserved text then .reserved
      else if text.isIdentifier && declared.contains text then .identifier
      else .error := by
  unfold Grammar.mark? at noMark
  unfold kindOf
  grind

def Advances (context : Context) (number : Int) (earlier : List Word) (declared : List Text)
    (word : Word) (effect : Effect) : Prop :=
  ∃ earlier' declared', Agrees effect.context number earlier' declared' ∧
    ∀ words, tokensFrom context earlier declared (word :: words) =
      effect.token.toList ++ tokensFrom effect.context earlier' declared' words

theorem advances_taken (agrees : Agrees context number earlier declared) (effect : Effect)
    (comment : effect.context.state.inComment = context.state.inComment)
    (names : effect.context.declared = context.declared)
    (same : ∀ words, tokensFrom context earlier declared (word :: words) =
      effect.token.toList ++ tokensFrom effect.context earlier declared words) :
    Advances context number earlier declared word effect :=
  ⟨earlier, declared, agrees.same comment names, same⟩

theorem advances_plain (agrees : Agrees context number earlier declared)
    (standing : word.span.start.line = number) (left : Uncommented context word)
    (effect : Effect) (kind : Kind) (token : effect.token = some (word.token kind))
    (found : kindOf context.state.expecting declared word.text = kind)
    (declares : ¬ (context.state.expecting = true ∧ kind = .identifier))
    (after : effect.context = { context with state.expecting := decide (kind = .reserved) }) :
    Advances context number earlier declared word effect := by
  refine ⟨earlier ++ [word], declared,
    agrees.push standing (by simp [after, left.notSlashes]) (by simp [after]), ?_⟩
  intro words
  rw [tokensFrom_uncommented word agrees standing left kind found, token, if_neg declares]
  simp [tokensFrom, after, left.closed, left.outside]

theorem classify_advances (agrees : Agrees context number earlier declared)
    (standing : word.span.start.line = number) :
    Advances context number earlier declared word (context.classify .standard word) := by
  have way := context.classified word
  generalize context.classify .standard word = effect at way ⊢
  cases way with
  | directiveBody inside =>
    refine advances_taken word agrees _ rfl rfl fun words => ?_
    simp [tokensFrom, directives, inside, comments, names]
  | directiveHead outside opens =>
    refine advances_taken word agrees _ rfl rfl fun words => ?_
    simp [tokensFrom, directives, outside, opens, comments, names]
  | literalPart literal left found stays =>
    refine advances_taken word agrees _ rfl rfl fun words => ?_
    rw [tokensFrom, directives_undirected word left, found, resume_part word _ literal stays]
    simp [tokensFrom, left.outside, comments, names]
  | literalEnd literal left found closes =>
    refine advances_taken word agrees _ rfl rfl fun words => ?_
    rw [tokensFrom, directives_undirected word left, found, resume_end word _ literal closes]
    simp [tokensFrom, left.outside, comments, names]
  | literalHead left closed opens stays =>
    refine advances_taken word agrees _ rfl rfl fun words => ?_
    rw [tokensFrom, directives_undirected word left, closed, resume_head word _ opens stays]
    simp [tokensFrom, left.outside, comments, names]
  | literalWhole left closed opens long closes =>
    refine advances_taken word agrees _ rfl rfl fun words => ?_
    rw [tokensFrom, directives_undirected word left, closed,
      resume_whole word _ opens long closes]
    simp [tokensFrom, left.outside, closed, comments, names]
  | commentBody left inside =>
    refine ⟨earlier ++ [word], declared, agrees.push standing (by simp [inside]) rfl, ?_⟩
    intro words
    rw [tokensFrom_unquoted word agrees standing left]
    simp [tokensFrom, inside, names, left.closed, left.outside]
  | commentHead left outside opens =>
    refine ⟨earlier ++ [word], declared, agrees.push standing (by simp [opens]) rfl, ?_⟩
    intro words
    rw [tokensFrom_unquoted word agrees standing left]
    simp [tokensFrom, opens, names, left.closed, left.outside]
  | mark kind left shape =>
    have found := kindOf_mark context.state.expecting declared word.text kind shape
    rcases Grammar.mark?_kind _ _ _ shape with rfl | rfl | rfl <;>
      exact advances_plain word agrees standing left _ _ rfl found (by simp) rfl
  | declared left expected shape =>
    refine ⟨earlier ++ [word], declared ++ [word.text],
      agrees.declare standing left.toUncommented, ?_⟩
    intro words
    have found : kindOf context.state.expecting declared word.text = .identifier := by
      simp [kindOf_unmarked _ _ _ left.noMark, expected, shape]
    rw [tokensFrom_uncommented word agrees standing left.toUncommented _ found]
    simp [tokensFrom, expected, left.closed, left.outside]
  | misplaced left expected shape =>
    refine advances_plain word agrees standing left.toUncommented _ _ rfl ?_ (by simp) rfl
    simp [kindOf_unmarked _ _ _ left.noMark, expected, shape]
  | reserved left free keyword =>
    refine advances_plain word agrees standing left.toUncommented _ _ rfl ?_ (by simp) rfl
    simp [kindOf_unmarked _ _ _ left.noMark, free, keyword]
  | known left free notKeyword shape member =>
    refine advances_plain word agrees standing left.toUncommented _ _ rfl ?_ (by simp [free]) rfl
    simp [kindOf_unmarked _ _ _ left.noMark, free, notKeyword, shape,
      (agrees.names word.text).mp member]
  | undeclared left free notKeyword shape missing =>
    have absent : word.text ∉ declared := fun member => missing ((agrees.names _).mpr member)
    refine advances_plain word agrees standing left.toUncommented _ _ rfl ?_ (by simp) rfl
    simp [kindOf_unmarked _ _ _ left.noMark, free, notKeyword, absent]
  | unknown left free notKeyword shape =>
    refine advances_plain word agrees standing left.toUncommented _ _ rfl ?_ (by simp) rfl
    simp [kindOf_unmarked _ _ _ left.noMark, free, notKeyword, shape]

theorem run_tokens (events : List Event) (standing : Event.Numbered number events)
    (agrees : Agrees context number earlier declared) :
    (context.run .standard none events).tokens =
      tokensFrom context earlier declared (events.filterMap Event.word?) := by
  induction events generalizing context number earlier declared with
  | nil => simp [tokensFrom, directives, resume_nil, comments, names]
  | cons event rest ih =>
    cases event with
    | line => exact ih standing agrees.newLine
    | word word =>
      obtain ⟨here, below⟩ := standing
      obtain ⟨earlier', declared', next, tokens⟩ := classify_advances word agrees here
      have later := ih below next
      simp [Event.word?, Run.after, tokens, later]

end Layer

theorem Scanner.scan_tokens_eq_layeredTokens (source file : Text) (sink : Option Sink)
    (nonempty : source ≠ []) (nulFree : '\x00' ∉ source)
    (accepting : ∀ receiver ∈ sink, receiver.limit = none) :
    (fresh source file sink).scan.2 = none ∧
      (fresh source file sink).scan.1.tokens = source.layeredTokens := by
  have start : Layer.Agrees {} 0 [] [] := ⟨by simp, by simp, fun _ => Iff.rfl⟩
  rw [scan_fresh source file sink nonempty nulFree accepting]
  refine ⟨rfl, ?_⟩
  have run := Layer.run_tokens source.events source.numbered_events start
  rw [source.words_events] at run
  exact run

theorem Scanner.scan_literal_over_directive :
    let source : Text := "int \"a #b c\nd\" x // y".toList
    (fresh source defaultFile (some {})).scan.2 = none ∧
      (fresh source defaultFile (some {})).scan.1.tokens = source.layeredTokens :=
  scan_tokens_eq_layeredTokens _ _ _ (by decide) (by decide) (by simp)

end LineLexer
