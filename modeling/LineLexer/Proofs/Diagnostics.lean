import LineLexer.Proofs.Reachability
import Mathlib.Data.List.Chain

set_option autoImplicit false

namespace LineLexer

def Diagnostic.shown (diagnostic : Diagnostic) : Text × Text × Span :=
  (diagnostic.message, diagnostic.word, diagnostic.span)

def Token.isReserved (token : Token) : Bool :=
  token.kind = .reserved

def Token.complaint? (previous : Option Token) (token : Token) : Option (Text × Text × Span) :=
  if token.kind ≠ .error then none
  else if previous.any Token.isReserved then
    some ("expected identifier/string after type, found `".toList ++ token.value ++ "`".toList,
      token.value, token.span)
  else if token.value.isIdentifier then
    some ("undeclared variable `".toList ++ token.value ++ "`".toList, token.value, token.span)
  else none

def complaints (previous : Option Token) : List Token → List (Text × Text × Span)
  | [] => []
  | token :: rest => (token.complaint? previous).toList ++ complaints (some token) rest

-- An error right after a keyword is never a word that the keyword could have declared.
def Token.NoNameAfter (keyword token : Token) : Prop :=
  keyword.isReserved = true → token.kind = .error → token.value.isIdentifier = false

theorem complaints_append (previous : Option Token) (tokens : List Token) (token : Token) :
    complaints previous (tokens ++ [token]) =
      complaints previous tokens ++ (token.complaint? (tokens.getLast?.or previous)).toList := by
  induction tokens generalizing previous with
  | nil => simp [complaints]
  | cons head rest ih =>
    have last : (head :: rest).getLast?.or previous = rest.getLast?.or (some head) := by
      cases rest <;> simp [List.getLast?_cons]
    simp [complaints, ih, last]

structure Explained (context : Context) (tokens : List Token) (diagnostics : List Diagnostic) :
    Prop where
  expecting : context.state.expecting = true ↔
    context.state.literal = none ∧ tokens.getLast?.any Token.isReserved = true
  shown : diagnostics.map Diagnostic.shown = complaints none tokens
  noNames : tokens.IsChain Token.NoNameAfter

namespace Explained

variable {context after : Context} {tokens : List Token} {diagnostics : List Diagnostic}
  (explained : Explained context tokens diagnostics)

include explained

theorem append (token : Token) (diagnostic? : Option Diagnostic)
    (expecting : after.state.expecting = true ↔
      after.state.literal = none ∧ token.isReserved = true)
    (shown : diagnostic?.map Diagnostic.shown = token.complaint? tokens.getLast?)
    (noNames : ∀ last ∈ tokens.getLast?, last.NoNameAfter token) :
    Explained after (tokens ++ [token]) (diagnostics ++ diagnostic?.toList) where
  expecting := by simpa using expecting
  shown := by
    rw [complaints_append, Option.or_none, ← shown, List.map_append, explained.shown]
    cases diagnostic? <;> rfl
  noNames := by
    refine List.isChain_append.mpr ⟨explained.noNames, List.isChain_singleton _, ?_⟩
    simpa using noNames

theorem quiet (token : Token) (noError : token.kind ≠ .error) (noKeyword : token.kind ≠ .reserved)
    (free : after.state.expecting = false) :
    Explained after (tokens ++ [token]) diagnostics := by
  have next : Explained after (tokens ++ [token]) (diagnostics ++ (none : Option _).toList) := by
    refine explained.append token none ?_ ?_ ?_
    · simp [free, Token.isReserved, noKeyword]
    · simp [Token.complaint?, noError]
    · intro last found keyword error
      contradiction
  simpa using next

theorem absorbed (literal : OpenLiteral) (begun : after.state.literal = some literal)
    (free : after.state.expecting = false) : Explained after tokens diagnostics where
  expecting := by simp [free, begun]
  shown := explained.shown
  noNames := explained.noNames

theorem newLine : Explained context.newLine tokens diagnostics where
  expecting := explained.expecting
  shown := explained.shown
  noNames := explained.noNames

theorem expecting_of_closed (closed : context.state.literal = none) :
    tokens.getLast?.any Token.isReserved = context.state.expecting := by
  rw [Bool.eq_iff_iff, explained.expecting]
  simp [closed]

theorem classify (word : Word) :
    Explained (context.classify .standard word).context
      (tokens ++ (context.classify .standard word).token.toList)
      (diagnostics ++ (context.classify .standard word).diagnostic.toList) := by
  have way := context.classified word
  generalize context.classify .standard word = effect at way ⊢
  cases way with
  | directiveBody | directiveHead | literalEnd | literalWhole | commentBody | commentHead
  | declared | known =>
    simp only [Option.toList_none, List.append_nil]
    exact explained.quiet _ (by simp) (by simp) rfl
  | literalPart | literalHead =>
    simp only [Option.toList_none, List.append_nil]
    exact explained.absorbed _ rfl rfl
  | mark kind left shape =>
    simp only [Option.toList_none, List.append_nil]
    rcases Grammar.mark?_kind _ _ _ shape with rfl | rfl | rfl <;>
      exact explained.quiet _ (by simp) (by simp) rfl
  | misplaced left expected shape =>
    have afterKeyword := explained.expecting_of_closed left.closed
    refine explained.append _ _ (by simp [Token.isReserved]) ?_ ?_
    · simp [Token.complaint?, afterKeyword, expected, Diagnostic.shown, Diagnostic.message,
        Word.diagnostic]
    · intro last found keyword error
      exact shape
  | reserved left free keyword =>
    refine explained.append _ none ?_ ?_ ?_
    · simp [Token.isReserved, left.closed]
    · simp [Token.complaint?]
    · intro last found keyword error
      contradiction
  | undeclared left free notKeyword shape missing =>
    have afterKeyword := explained.expecting_of_closed left.closed
    refine explained.append _ _ (by simp [Token.isReserved]) ?_ ?_
    · simp [Token.complaint?, afterKeyword, free, shape, Diagnostic.shown, Diagnostic.message,
        Word.diagnostic]
    · intro last found keyword error
      simp [Option.mem_def.mp found, keyword, free] at afterKeyword
  | unknown left free notKeyword shape =>
    have afterKeyword := explained.expecting_of_closed left.closed
    refine explained.append _ none (by simp [Token.isReserved]) ?_ ?_
    · simp [Token.complaint?, afterKeyword, free, shape]
    · intro last found keyword error
      exact shape

end Explained

theorem Explained.maintained : Maintained Explained where
  line _ _ _ explained := explained.newLine
  word _ _ _ word explained := explained.classify word

namespace Scanner

def heard (scanner : Scanner) : Scanner :=
  { scanner with sink := some { received := scanner.diagnostics } }

theorem feed_heard (scanner : Scanner) (silent : scanner.sink = none) (events : List Event) :
    (scanner.heard.feed events).1 = (scanner.feed events).1.heard := by
  have room : scanner.heard.room = scanner.room := by simp [Scanner.room, heard, silent, Sink.room]
  simp only [feed, room]
  simp [absorb, heard, Sink.receive]

theorem after_heard (scanner : Scanner) (silent : scanner.sink = none) (commands : List Command) :
    scanner.heard.after commands = (scanner.after commands).heard := by
  induction commands generalizing scanner with
  | nil => rfl
  | cons command rest ih =>
    have next : (scanner.heard.perform command).1 = (scanner.perform command).1.heard := by
      rw [perform_eq_feed, perform_eq_feed]
      exact feed_heard scanner silent _
    have later := ih (scanner.perform command).1 (scanner.perform_silent silent command)
    rw [← next] at later
    exact later

theorem diagnostics_from_tokens (source file : Text) (commands : List Command) :
    let scanner := (fresh source file none).after commands
    scanner.diagnostics.map Diagnostic.shown = complaints none scanner.tokens ∧
      scanner.tokens.IsChain Token.NoNameAfter ∧
      (fresh source file (some {})).after commands =
        { scanner with sink := some { received := scanner.diagnostics } } := by
  have start : Explained {} [] [] := ⟨by simp, rfl, .nil⟩
  have explained := Explained.maintained.after (fresh source file none) commands rfl rfl start
  have heard := after_heard (fresh source file none) rfl commands
  exact ⟨explained.shown, explained.noNames, heard⟩

end Scanner

end LineLexer
