import LineLexer.Proofs.Relocation
import LineLexer.Proofs.WordTexts

set_option autoImplicit false

namespace LineLexer

def Position.nowhere (_ : Position) : Position where
  line := 0
  column := 0

def Word.bare (text : Text) : Word :=
  { text, span := ⟨⟨0, 0⟩, ⟨0, 0⟩⟩ }

theorem Word.moved_nowhere (word : Word) : word.moved .nowhere = .bare word.text := rfl

namespace Event

def ofRows (rows : List (List Text)) : List Event :=
  rows.flatMap fun row => .line :: row.map (word ∘ Word.bare)

theorem ofRows_cons (row : List Text) (rows : List (List Text)) :
    ofRows (row :: rows) = .line :: (row.map (word ∘ Word.bare) ++ ofRows rows) := by
  simp [ofRows]

theorem moved_ofLines (number : Int) (lines : List Text) :
    (ofLines number lines).map (·.moved .nowhere) = ofRows (lines.map Text.wordTexts) := by
  induction lines generalizing number with
  | nil => rfl
  | cons text rest ih =>
    rw [List.map_cons, ofRows_cons, ← text.map_text_words_eq number, ← ih (number + 1)]
    simp [ofLines, moved, Function.comp_def, Word.moved_nowhere]

end Event

namespace Context

-- Lines without words only end comments, and so does the next line.
theorem run_filled_rows (context other : Context) (same : context.newLine = other.newLine)
    (rows : List (List Text)) :
    let all := context.run .standard none (Event.ofRows rows)
    let filled := other.run .standard none (Event.ofRows (rows.filter (!·.isEmpty)))
    all.tokens = filled.tokens ∧ all.diagnostics = filled.diagnostics ∧
      all.context.newLine = filled.context.newLine := by
  induction rows generalizing context other with
  | nil => exact ⟨rfl, rfl, same⟩
  | cons row rows ih =>
    cases row with
    | nil => exact ih context.newLine other same
    | cons text row =>
      have later := ih (context.newLine.run .standard none
        ((text :: row).map (.word ∘ Word.bare))).context _ rfl
      simp only [List.filter_cons, List.isEmpty_cons, Bool.not_false, if_true, Event.ofRows_cons,
        run_line, run_append, same, Run.andThen] at later ⊢
      obtain ⟨tokens, diagnostics, context⟩ := later
      exact ⟨by rw [tokens], by rw [diagnostics], context⟩

theorem classify_inComment (context : Context) (word : Word)
    (outside : context.state.inComment = false) (plain : word.text.opensComment = false) :
    (context.classify .standard word).context.state.inComment = false := by
  have way := context.classified word
  generalize context.classify .standard word = effect at way ⊢
  cases way with
  | commentHead left outside opens => simp [plain] at opens
  | _ => exact outside

theorem newLine_of_outside (context : Context) (outside : context.state.inComment = false) :
    context.newLine = context := by
  obtain ⟨⟨inDirective, literal, expecting, inComment⟩, declared⟩ := context
  simpa [newLine] using outside.symm

theorem run_uncommented (context : Context) (outside : context.state.inComment = false)
    (events : List Event)
    (plain : ∀ word ∈ events.filterMap Event.word?, word.text.opensComment = false) :
    context.run .standard none events =
      context.run .standard none ((events.filterMap Event.word?).map .word) := by
  induction events generalizing context with
  | nil => rfl
  | cons event rest ih =>
    cases event with
    | line =>
      rw [run_line, context.newLine_of_outside outside]
      exact ih context outside plain
    | word word =>
      simp only [List.filterMap_cons, Event.word?, List.forall_mem_cons] at plain ⊢
      have later := ih _ (context.classify_inComment word outside plain.1) plain.2
      simp [later]

end Context

namespace Text

theorem run_rows_moved (source : Text) :
    let found := (Context.run .standard none {} source.events).moved .nowhere
    let filled := Context.run .standard none {} (Event.ofRows source.wordRows)
    found.tokens = filled.tokens ∧ found.diagnostics = filled.diagnostics ∧
      found.context.newLine = filled.context.newLine := by
  have rows : (Context.run .standard none {} source.events).moved .nowhere =
      Context.run .standard none {} (Event.ofRows (source.lines.map wordTexts)) := by
    rw [← Context.run_moved, events, Event.moved_ofLines]
    rfl
  rw [rows]
  exact Context.run_filled_rows {} {} rfl _

theorem run_words_moved (source : Text)
    (plain : ∀ word ∈ source.sourceWords, word.text.opensComment = false) :
    (Context.run .standard none {} source.events).moved .nowhere =
      Context.run .standard none {}
        ((source.sourceWords.map Word.text).map (.word ∘ Word.bare)) := by
  rw [← source.words_events] at plain
  rw [Context.run_uncommented {} rfl source.events plain, source.words_events,
    ← Context.run_moved, List.map_map, List.map_map]
  rfl

end Text

namespace Scanner

structure SameButPlaces (left right : Scanner) : Prop where
  tokens : left.tokens.map (fun token => (token.value, token.kind)) =
    right.tokens.map (fun token => (token.value, token.kind))
  diagnostics :
    left.diagnostics.map (fun diagnostic => (diagnostic.message, diagnostic.word)) =
      right.diagnostics.map (fun diagnostic => (diagnostic.message, diagnostic.word))
  declared : left.context.declared = right.context.declared
  inDirective : left.context.state.inDirective = right.context.state.inDirective
  inString : left.context.state.inString = right.context.state.inString
  expecting : left.context.state.expecting = right.context.state.expecting
  stringParts : left.context.state.stringParts = right.context.state.stringParts

theorem sameButPlaces_of_moved (left right : Scanner)
    (tokens : left.tokens.map (·.moved .nowhere) = right.tokens.map (·.moved .nowhere))
    (diagnostics : left.diagnostics.map (·.moved .nowhere) =
      right.diagnostics.map (·.moved .nowhere))
    (context : (left.context.moved .nowhere).newLine = (right.context.moved .nowhere).newLine) :
    SameButPlaces left right where
  tokens := by
    have values := congrArg (List.map fun token : Token => (token.value, token.kind)) tokens
    simpa [Function.comp_def, Token.moved] using values
  diagnostics := by
    have texts := congrArg (List.map fun diagnostic : Diagnostic =>
      (diagnostic.message, diagnostic.word)) diagnostics
    simpa [Function.comp_def, Diagnostic.moved, Diagnostic.message] using texts
  declared := congrArg (·.declared) context
  inDirective := congrArg (·.state.inDirective) context
  inString := by
    have inside := congrArg (·.state.inString) context
    simpa [Context.newLine, Context.moved, State.moved, State.inString] using inside
  expecting := congrArg (·.state.expecting) context
  stringParts := by
    have parts := congrArg (·.state.stringParts) context
    simpa [Context.newLine, Context.moved, State.moved, State.stringParts, Function.comp_def,
      OpenLiteral.moved] using parts

variable (file : Text) (sink : Option Sink) (left right : Text)

structure ScannedAlike : Prop where
  completed : (fresh left file sink).scan.2 = none ∧ (fresh right file sink).scan.2 = none
  same : SameButPlaces (fresh left file sink).scan.1 (fresh right file sink).scan.1

variable (nonempty : left ≠ []) (nonempty' : right ≠ []) (nulFree : '\x00' ∉ left)
  (nulFree' : '\x00' ∉ right) (accepting : ∀ receiver ∈ sink, receiver.limit = none)

include nonempty nonempty' nulFree nulFree' accepting

theorem scannedAlike_of_moved
    (tokens : (Context.run .standard none {} left.events).tokens.map (·.moved .nowhere) =
      (Context.run .standard none {} right.events).tokens.map (·.moved .nowhere))
    (diagnostics :
      (Context.run .standard none {} left.events).diagnostics.map (·.moved .nowhere) =
        (Context.run .standard none {} right.events).diagnostics.map (·.moved .nowhere))
    (context : ((Context.run .standard none {} left.events).context.moved .nowhere).newLine =
      ((Context.run .standard none {} right.events).context.moved .nowhere).newLine) :
    ScannedAlike file sink left right := by
  have first := scan_fresh left file sink nonempty nulFree accepting
  have second := scan_fresh right file sink nonempty' nulFree' accepting
  constructor
  · rw [first, second]
    exact ⟨rfl, rfl⟩
  · rw [first, second]
    exact sameButPlaces_of_moved _ _ tokens diagnostics context

theorem scannedAlike_of_wordRows (same : left.wordRows = right.wordRows) :
    ScannedAlike file sink left right := by
  obtain ⟨tokens, diagnostics, context⟩ := left.run_rows_moved
  obtain ⟨tokens', diagnostics', context'⟩ := right.run_rows_moved
  rw [same] at tokens diagnostics context
  exact scannedAlike_of_moved file sink left right nonempty nonempty' nulFree nulFree' accepting
    (tokens.trans tokens'.symm) (diagnostics.trans diagnostics'.symm) (context.trans context'.symm)

theorem scannedAlike_of_words
    (plain : ∀ word ∈ left.sourceWords ++ right.sourceWords, word.text.opensComment = false)
    (same : left.sourceWords.map Word.text = right.sourceWords.map Word.text) :
    ScannedAlike file sink left right := by
  obtain ⟨first, second⟩ := List.forall_mem_append.mp plain
  have moved : (Context.run .standard none {} left.events).moved .nowhere =
      (Context.run .standard none {} right.events).moved .nowhere := by
    rw [left.run_words_moved first, right.run_words_moved second, same]
  exact scannedAlike_of_moved file sink left right nonempty nonempty' nulFree nulFree' accepting
    (congrArg Run.tokens moved) (congrArg Run.diagnostics moved)
    (congrArg (·.context.newLine) moved)

omit nonempty' nulFree' in
theorem scannedAlike_respaced (filled : left.respaced ≠ []) :
    ScannedAlike file sink left.respaced left := by
  refine scannedAlike_of_wordRows file sink _ _ filled nonempty ?_ nulFree accepting
    left.wordRows_respaced
  intro inside
  rcases left.mem_respaced _ inside with broken | space | inside
  · contradiction
  · contradiction
  · exact nulFree inside

end Scanner

theorem Scanner.scan_ignores_layout (file : Text) (sink : Option Sink)
    (accepting : ∀ receiver ∈ sink, receiver.limit = none) :
    (∀ left right : Text, left ≠ [] → right ≠ [] → '\x00' ∉ left → '\x00' ∉ right →
      (left.wordRows = right.wordRows → ScannedAlike file sink left right) ∧
      ((∀ word ∈ left.sourceWords ++ right.sourceWords, word.text.opensComment = false) →
        left.sourceWords.map Word.text = right.sourceWords.map Word.text →
        ScannedAlike file sink left right)) ∧
    (∀ left right : Text, left.Reblanked right →
      left.sourceWords.map Word.text = right.sourceWords.map Word.text) ∧
    ∀ source : Text, source ≠ [] → '\x00' ∉ source → source.respaced ≠ [] →
      ScannedAlike file sink source.respaced source := by
  refine ⟨?_, ?_, ?_⟩
  · intro left right nonempty nonempty' nulFree nulFree'
    constructor
    · exact scannedAlike_of_wordRows file sink left right nonempty nonempty' nulFree nulFree'
        accepting
    · exact scannedAlike_of_words file sink left right nonempty nonempty' nulFree nulFree' accepting
  · intro left right reblanked
    rw [Text.map_text_sourceWords, Text.map_text_sourceWords]
    exact reblanked.wordTexts_eq
  · intro source nonempty nulFree
    exact scannedAlike_respaced file sink source nonempty nulFree accepting

theorem Scanner.scan_ignores_indentation :
    let left : Text := "\n  int x\t= y ;// a\n\n \"b  c\"".toList
    let right : Text := "int x = y; // a\n\"b c\" \n".toList
    left.wordRows = right.wordRows ∧
      ScannedAlike defaultFile (some {}) left right ∧
      ScannedAlike defaultFile (some {}) left.respaced left ∧
      ScannedAlike defaultFile (some {}) "int x\ny".toList "int\u3000x y ".toList := by
  intro left right
  have same : left.wordRows = right.wordRows := by decide +kernel
  obtain ⟨alike, -, respaced⟩ := scan_ignores_layout defaultFile (some {}) (by simp)
  refine ⟨same, (alike left right (by decide) (by decide) (by decide) (by decide)).1 same,
    respaced left (by decide) (by decide) (by decide +kernel), ?_⟩
  exact (alike _ _ (by decide) (by decide) (by decide) (by decide)).2 (by decide +kernel)
    (by decide +kernel)

end LineLexer
