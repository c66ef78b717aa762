import LineLexer.Proofs.Handlers

set_option autoImplicit false

namespace LineLexer

namespace Text

theorem opensLiteral_iff (text : Text) :
    text.opensLiteral = true ↔ ∃ rest, text = '"' :: rest := by
  simp [opensLiteral, List.head?_eq_some_iff]

theorem closesLiteral_iff (text : Text) :
    text.closesLiteral = true ↔ ∃ front, text = front ++ ['"'] := by
  simp [closesLiteral, List.getLast?_eq_some_iff]

def IsQuoted (value : Text) : Prop :=
  2 ≤ value.length ∧ value.head? = some '"' ∧ value.getLast? = some '"'

end Text

def Unclosed (parts : List Text) : Prop :=
  ∃ first later, parts = first :: later ∧ first.opensLiteral = true ∧
    (first.closesLiteral = true → first = ['"']) ∧ ∀ part ∈ later, part.closesLiteral = false

theorem unclosed_head (text : Text) (opens : text.opensLiteral = true)
    (stays : text.closesLiteral = true → text.length ≤ 1) : Unclosed [text] := by
  refine ⟨text, [], rfl, opens, ?_, by simp⟩
  intro closes
  have short := stays closes
  obtain ⟨rest, rfl⟩ := text.opensLiteral_iff.mp opens
  simpa using short

theorem Unclosed.extend {parts : List Text} (unclosed : Unclosed parts) (text : Text)
    (stays : text.closesLiteral = false) : Unclosed (parts ++ [text]) := by
  obtain ⟨first, later, rfl, opens, lone, unclosed⟩ := unclosed
  refine ⟨first, later ++ [text], rfl, opens, lone, ?_⟩
  intro part member
  rcases List.mem_append.mp member with earlier | added
  · exact unclosed part earlier
  · simpa [List.mem_singleton.mp added] using stays

theorem Unclosed.quoted {parts : List Text} (unclosed : Unclosed parts) (text : Text)
    (closes : text.closesLiteral = true) : Text.IsQuoted (parts ++ [text]).flatten := by
  obtain ⟨first, later, rfl, opens, -, -⟩ := unclosed
  obtain ⟨rest, rfl⟩ := first.opensLiteral_iff.mp opens
  obtain ⟨front, rfl⟩ := text.closesLiteral_iff.mp closes
  have value : (('"' :: rest) :: later ++ [front ++ ['"']]).flatten =
      ('"' :: rest ++ later.flatten ++ front) ++ ['"'] := by simp
  rw [value]
  refine ⟨?_, by simp, by rw [List.getLast?_concat]⟩
  simp only [List.length_append, List.length_cons]
  omega

theorem quoted_whole (text : Text) (opens : text.opensLiteral = true)
    (long : 1 < text.length) (closes : text.closesLiteral = true) : text.IsQuoted := by
  refine ⟨long, ?_, ?_⟩
  · simpa [Text.opensLiteral] using opens
  · simpa [Text.closesLiteral] using closes

structure Context.Sound (context : Context) (tokens : List Token) : Prop where
  literal (literal : OpenLiteral) : context.state.literal = some literal → Unclosed literal.parts
  expecting : context.state.expecting = true →
    context.state.inDirective = false ∧ context.state.literal = none ∧
      context.state.inComment = false ∧ tokens.getLast?.map Token.kind = some .reserved
  strings : ∀ token ∈ tokens, token.kind = .string → token.value.IsQuoted

namespace Context

theorem Sound.start : Sound {} [] where
  literal _ found := by simp at found
  expecting expected := by simp at expected
  strings := by simp

theorem Sound.newLine {context : Context} {tokens : List Token} (sound : context.Sound tokens) :
    context.newLine.Sound tokens where
  literal := sound.literal
  expecting expected :=
    let ⟨outside, closed, _, last⟩ := sound.expecting expected
    ⟨outside, closed, rfl, last⟩
  strings := sound.strings

theorem Sound.strings_append {context : Context} {tokens : List Token}
    (sound : context.Sound tokens) (added : Token)
    (quoted : added.kind = .string → added.value.IsQuoted) :
    ∀ token ∈ tokens ++ [added], token.kind = .string → token.value.IsQuoted := by
  intro token member
  rcases List.mem_append.mp member with earlier | last
  · exact sound.strings token earlier
  · obtain rfl : token = added := List.mem_singleton.mp last
    exact quoted

theorem Sound.emit {context after : Context} {tokens : List Token} (sound : context.Sound tokens)
    (token : Token) (plain : token.kind ≠ .string)
    (same : after.state.literal = context.state.literal)
    (free : after.state.expecting = false) : after.Sound (tokens ++ [token]) where
  literal literal found := sound.literal literal (same ▸ found)
  expecting expected := by simp [free] at expected
  strings := sound.strings_append token fun string => absurd string plain

theorem Sound.classify {context : Context} {tokens : List Token} (sound : context.Sound tokens)
    (word : Word) :
    (context.classify .standard word).context.Sound
      (tokens ++ (context.classify .standard word).token.toList) := by
  have way := context.classified word
  generalize context.classify .standard word = effect at way ⊢
  cases way with
  | literalPart literal left found stays =>
    refine ⟨?_, by simp, by simpa using sound.strings⟩
    intro longer same
    obtain rfl : literal.extend word.text = longer := by simpa using same
    exact (sound.literal literal found).extend word.text stays
  | literalEnd literal left found closes =>
    refine ⟨by simp, by simp, sound.strings_append _ ?_⟩
    intro _
    exact (sound.literal literal found).quoted word.text closes
  | literalHead left closed opens stays =>
    refine ⟨?_, by simp, by simpa using sound.strings⟩
    intro started same
    obtain rfl : { start := word.span.start, parts := [word.text] } = started := by
      simpa using same
    exact unclosed_head word.text opens stays
  | literalWhole left closed opens long closes =>
    refine ⟨by simp [closed], by simp, sound.strings_append _ ?_⟩
    intro _
    exact quoted_whole word.text opens long closes
  | reserved left free keyword =>
    refine ⟨sound.literal, ?_, sound.strings_append _ (by simp)⟩
    intro _
    exact ⟨left.outside, left.closed, left.noComment, by simp⟩
  | mark kind left shape =>
    have kinds := Grammar.mark?_kind _ _ _ shape
    exact sound.emit _ (by rcases kinds with rfl | rfl | rfl <;> simp) rfl rfl
  | _ => exact sound.emit _ (by simp) rfl rfl

theorem Sound.refused {context : Context} {tokens : List Token} (sound : context.Sound tokens)
    (word : Word) (diagnostic : Diagnostic)
    (found : (context.classify .standard word).diagnostic = some diagnostic) :
    (context.classify .standard word).context.Sound tokens := by
  have settled : context.settled.Sound tokens :=
    ⟨sound.literal, by simp, sound.strings⟩
  have way := context.classified word
  generalize context.classify .standard word = effect at way found ⊢
  cases way with
  | misplaced | undeclared => exact settled
  | _ => simp at found

end Context

namespace Scanner

theorem Reachable.sound {scanner : Scanner} (reached : scanner.Reachable) :
    scanner.context.Sound scanner.tokens := by
  have kept : Maintained fun context tokens _ => context.Sound tokens :=
    ⟨fun _ _ _ sound => sound.newLine, fun _ _ _ word sound => sound.classify word⟩
  have survives : SurvivesRefusal fun context tokens _ => context.Sound tokens :=
    fun _ _ _ word diagnostic sound found => sound.refused word diagnostic found
  exact kept.reachable survives Context.Sound.start reached

end Scanner

namespace Machine

-- What a string without a start would fall back on makes no difference: there is none such.
theorem reachable_state_consistent {machine : Machine} (reached : machine.Reachable) :
    (machine.registers.inString = true ↔ machine.registers.stringParts ≠ []) ∧
    (machine.registers.inString = true ↔ machine.registers.stringStart ≠ none) ∧
    (machine.registers.inString = true →
      ∃ first later, machine.registers.stringParts = first :: later ∧
        first.head? = some '"' ∧ (first.getLast? = some '"' → first = ['"']) ∧
        ∀ part ∈ later, part.getLast? ≠ some '"') ∧
    (machine.registers.expecting = true →
      machine.registers.inDirective = false ∧ machine.registers.inString = false ∧
        machine.registers.inComment = false ∧
        ∃ last, machine.tokens.getLast? = some last ∧ last.kind = .reserved) ∧
    (∀ fallback word, (classify fallback word).run machine = (classify id word).run machine) ∧
    (∀ fallback, (scan fallback).run machine = (scan id).run machine) ∧
    ∀ token ∈ machine.tokens, token.kind = .string →
      2 ≤ token.value.length ∧ token.value.head? = some '"' ∧
        token.value.getLast? = some '"' := by
  obtain ⟨scanner, known, rfl⟩ := reached.exists_scanner
  have sound := known.sound
  have standard := known.grammar_eq
  refine ⟨?_, ?_, ?_, ?_, ?_, ?_, sound.strings⟩
  · cases found : scanner.context.state.literal with
    | none => simp [Scanner.machine, State.registers, State.inString, State.stringParts, found]
    | some literal =>
      obtain ⟨first, later, same, -⟩ := sound.literal literal found
      simp [Scanner.machine, State.registers, State.inString, State.stringParts, found, same]
  · cases found : scanner.context.state.literal <;>
      simp [Scanner.machine, State.registers, State.inString, State.stringStart, found]
  · intro inside
    obtain ⟨literal, found⟩ := Option.isSome_iff_exists.mp inside
    obtain ⟨first, later, same, opens, lone, unclosed⟩ := sound.literal literal found
    refine ⟨first, later, ?_, ?_, ?_, ?_⟩
    · simp [Scanner.machine, State.registers, State.stringParts, found, same]
    · simpa [Text.opensLiteral] using opens
    · simpa [Text.closesLiteral] using lone
    · simpa [Text.closesLiteral] using unclosed
  · intro expected
    obtain ⟨outside, closed, noComment, last⟩ := sound.expecting expected
    refine ⟨outside, ?_, noComment, by simpa [Scanner.machine] using last⟩
    simp [Scanner.machine, State.registers, State.inString, closed]
  · intro fallback word
    rw [Scanner.run_classify fallback scanner word, Scanner.run_classify id scanner word]
  · intro fallback
    rw [Scanner.run_scan fallback scanner standard, Scanner.run_scan id scanner standard]

def refusedThenOpened : Machine :=
  let refused := ((scan id).outcome
    { source := "x int y".toList, sink := some { limit := some 0 } }).1
  ((classify id (.startingAt { line := 1, column := 9 } "\"a".toList)).outcome refused).1

theorem refusedThenOpened_consistent :
    refusedThenOpened.registers.inString = true ∧
      refusedThenOpened.registers.stringParts ≠ [] := by
  have reached : refusedThenOpened.Reachable := .word _ _ (.scan _ (.fresh _ _ _))
  have inside : refusedThenOpened.registers.inString = true := by decide +kernel
  exact ⟨inside, (reachable_state_consistent reached).1.mp inside⟩

end Machine

end LineLexer
