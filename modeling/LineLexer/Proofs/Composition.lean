import LineLexer.Proofs.Relocation
import LineLexer.Proofs.Rescan
import LineLexer.Proofs.SourceText

set_option autoImplicit false

namespace LineLexer

def Position.below (count : Int) (position : Position) : Position :=
  { position with line := position.line + count }

theorem Position.below_advance (count : Int) (position : Position) (width : Nat) :
    (position.advance width).below count = (position.below count).advance width := rfl

theorem Word.place_below (count : Int) (start : Position) (pieces : List Text) :
    place (start.below count) pieces = (place start pieces).map (·.moved (.below count)) := by
  induction pieces generalizing start with
  | nil => rfl
  | cons piece rest ih =>
    rw [place, place, ← Position.below_advance, ih]
    rfl

theorem Text.words_below (count number : Int) (line : Text) :
    line.words (number + count) = (line.words number).map (·.moved (.below count)) := by
  have placed : Word.place { line := number + count, column := 1 } line.pieces =
      (Word.place { line := number, column := 1 } line.pieces).map (·.moved (.below count)) :=
    Word.place_below count { line := number, column := 1 } line.pieces
  rw [Text.words, placed, List.filter_map]
  rfl

theorem Text.length_lines (text : Text) : text.lines.length = text.count '\n' + 1 := by
  induction text using lines_induction with
  | last line flat => simp [lines_of_flat line flat, List.count_eq_zero_of_not_mem flat]
  | above line rest flat ih =>
    simp only [lines_append_newline, lines_of_flat line flat, List.length_append, ih]
    simp [List.count_eq_zero_of_not_mem flat]
    omega

namespace Event

theorem ofLines_below (count number : Int) (lines : List Text) :
    ofLines (number + count) lines = (ofLines number lines).map (·.moved (.below count)) := by
  induction lines generalizing number with
  | nil => rfl
  | cons text rest ih =>
    have next := ih (number + 1)
    rw [Int.add_right_comm] at next
    simp [ofLines, Text.words_below, next, moved, Function.comp_def]

theorem ofLines_append (number : Int) (first second : List Text) :
    ofLines number (first ++ second) =
      ofLines number first ++ ofLines (number + first.length) second := by
  induction first generalizing number with
  | nil => simp [ofLines]
  | cons text rest ih =>
    have later : number + 1 + (rest.length : Int) = number + ((text :: rest).length : Nat) := by
      simp only [List.length_cons]
      omega
    simp [ofLines, ih, later]

end Event

theorem Text.events_append_newline (first second : Text) :
    (first ++ '\n' :: second).events =
      first.events ++ Event.ofLines ((first.count '\n' + 1 : Nat) + 1) second.lines := by
  have next : (1 : Int) + first.lines.length = (first.count '\n' + 1 : Nat) + 1 := by
    rw [first.length_lines]
    omega
  rw [events, lines_append_newline, Event.ofLines_append, next]
  rfl

namespace Context

theorem run_ofLines_congr (context other : Context) (same : context.newLine = other.newLine)
    (number : Int) (text : Text) :
    context.run .standard none (Event.ofLines number text.lines) =
      other.run .standard none (Event.ofLines number text.lines) := by
  cases found : text.lines with
  | nil => exact absurd found text.lines_ne_nil
  | cons line rest => simp [Event.ofLines, same]

theorem Closed.newLine_eq {context : Context} (closed : context.Closed)
    (noNames : context.declared = {}) : context.newLine = {} := by
  have state := closed.wider.state
  calc context.newLine
    _ = ⟨context.newLine.state, context.declared⟩ := rfl
    _ = {} := by rw [state, noNames]

theorem run_below (count : Int) (source : Text) :
    run .standard none {} (Event.ofLines (count + 1) source.lines) =
      (run .standard none {} source.events).moved (.below count) := by
  rw [← run_moved, Int.add_comm, Event.ofLines_below]
  rfl

end Context

theorem Scanner.scan_append_newline (first second file : Text) (sink : Option Sink)
    (nonempty : first ≠ []) (nulFree : '\x00' ∉ first) (nulFree' : '\x00' ∉ second)
    (accepting : ∀ receiver ∈ sink, receiver.limit = none) :
    let count := first.count '\n' + 1
    let below := Event.ofLines (count + 1) second.lines
    let whole := (fresh (first ++ '\n' :: second) file sink).scan
    let head := (fresh first file sink).scan
    let remainder := head.1.context.run .standard none below
    whole.2 = none ∧ head.2 = none ∧
      whole.1.tokens = head.1.tokens ++ remainder.tokens ∧
      whole.1.diagnostics = head.1.diagnostics ++ remainder.diagnostics ∧
      whole.1.context = remainder.context ∧
      (∀ name ∈ head.1.context.declared, name ∈ whole.1.context.declared) ∧
      (∀ flag, Context.run .standard none
        { head.1.context with state.inComment := flag } below = remainder) ∧
      (head.1.context.Closed → head.1.context.declared = {} → second ≠ [] →
        let alone := (fresh second file sink).scan
        alone.2 = none ∧
          remainder.tokens = alone.1.tokens.map (·.moved (.below count)) ∧
          remainder.diagnostics = alone.1.diagnostics.map (·.moved (.below count))) := by
  have nulFree'' : '\x00' ∉ first ++ '\n' :: second := by simp [nulFree, nulFree']
  simp only [scan_fresh _ file sink (by simp) nulFree'' accepting,
    scan_fresh first file sink nonempty nulFree accepting, Text.events_append_newline,
    Context.run_append]
  -- Tokens, diagnostics and context are by now those of the two runs one after the other.
  simp only [fresh, absorb, Run.andThen, List.nil_append, true_and]
  refine ⟨?_, ?_, ?_⟩
  · intro name known
    exact (Context.mem_declared_run _ _ name).mpr (.inl known)
  · intro flag
    apply Context.run_ofLines_congr
    rfl
  · intro closed noNames more
    have start := Context.run_ofLines_congr _ {} (closed.newLine_eq noNames)
      ((first.count '\n' + 1 : Nat) + 1) second
    rw [start, Context.run_below]
    have alone := scan_fresh second file sink more nulFree' accepting
    simp only [fresh, absorb, List.nil_append] at alone
    rw [alone]
    exact ⟨rfl, rfl, rfl⟩

theorem Scanner.scan_append_newline_after_comment :
    let first : Text := "= 1\n2 // a".toList
    let second : Text := "int b\nc".toList
    let head := (fresh first defaultFile (some {})).scan
    let whole := (fresh (first ++ '\n' :: second) defaultFile (some {})).scan
    let alone := (fresh second defaultFile (some {})).scan
    head.1.context.Closed ∧ head.1.context.state.inComment = true ∧ alone.1.diagnostics ≠ [] ∧
      whole.1.tokens = head.1.tokens ++ alone.1.tokens.map (·.moved (.below 2)) ∧
      whole.1.diagnostics = head.1.diagnostics ++ alone.1.diagnostics.map (·.moved (.below 2)) := by
  intro first second head whole alone
  have closed : head.1.context.Closed := by constructor <;> decide +kernel
  obtain ⟨-, -, tokens, diagnostics, -, -, -, further⟩ :=
    scan_append_newline first second defaultFile (some {}) (by decide) (by decide) (by decide)
      (by simp)
  obtain ⟨-, tokens', diagnostics'⟩ := further closed (by decide +kernel) (by decide)
  rw [tokens'] at tokens
  rw [diagnostics'] at diagnostics
  exact ⟨closed, by decide +kernel, by decide +kernel, tokens, diagnostics⟩

end LineLexer
