import LineLexer.Editor
import LineLexer.Proofs.SpanFidelity

set_option autoImplicit false

namespace LineLexer

namespace Editor

structure Range.Marks (range : Range) (source shown : Text) : Prop where
  nonnegative : 0 ≤ range.startLine ∧ 0 ≤ range.startCharacter ∧ 0 ≤ range.stopLine ∧
    0 ≤ range.stopCharacter
  oneLine : range.startLine = range.stopLine
  wide : range.startCharacter < range.stopCharacter
  shows : ∃ line, source.lines[range.startLine.toNat]? = some line ∧
    range.stopCharacter ≤ line.length ∧
    (line.drop range.startCharacter.toNat).take
      (range.stopCharacter - range.startCharacter).toNat = shown

theorem marks_word (source : Text) (word : Word) (member : word ∈ source.sourceWords) :
    (Range.ofSpan word.span).Marks source word.text := by
  obtain ⟨⟨-, line, -, column, -⟩, ⟨shown', line', here', column', within⟩, same, shown, here,
    text⟩ := source.positions_of_mem word member
  obtain rfl : shown' = shown := by
    rw [← same, here] at here'
    exact (Option.some.inj here').symm
  have wide : word.span.start.column < word.span.stop.column := by
    have before := source.start_lt_stop_of_mem_sourceWords word member
    rw [Position.lt_iff] at before
    omega
  have width : word.span.stop.column - 1 - (word.span.start.column - 1) =
      word.span.stop.column - word.span.start.column := by omega
  refine ⟨?_, ?_, ?_, shown', here, ?_, ?_⟩
  · simp only [Range.ofSpan]
    omega
  · simp only [Range.ofSpan, same]
  · simp only [Range.ofSpan]
    omega
  · simp only [Range.ofSpan]
    omega
  · simpa only [Range.ofSpan, width] using text

theorem marks_nul (source : Text) (position : Position) (first : source.FirstNul position) :
    (Range.ofSpan { start := position, stop := position.advance 1 }).Marks source ['\x00'] := by
  obtain ⟨above, front, back, below, lines, -, -, rfl⟩ := first
  have width : ((front.length : Int) + 1 + (1 : Nat) - 1 - (front.length + 1 - 1)).toNat = 1 := by
    omega
  refine ⟨?_, rfl, ?_, front ++ '\x00' :: back, ?_, ?_, ?_⟩
  · simp only [Range.ofSpan, Position.advance]
    omega
  · simp only [Range.ofSpan, Position.advance]
    omega
  · simp [Range.ofSpan, lines]
  · simp only [Range.ofSpan, Position.advance, List.length_append, List.length_cons]
    omega
  · simp only [Range.ofSpan, Position.advance, width]
    simp

theorem noticesIn_eq_notices (file text : Text) : noticesIn file text = notices text := by
  rw [notices, noticesIn, noticesIn, text.scanned_renamed defaultFile file]
  cases text.scanned defaultFile <;> rfl

theorem notices_of_nul (text : Text) (position : Position)
    (refused : text.inputError? = some (.nul position)) :
    notices text = [.ofInputError (.nul position)] := by
  have nonempty : text.isEmpty = false := by
    cases text with
    | nil => simp [Text.inputError?] at refused
    | cons => rfl
  simp [notices, noticesIn, nonempty, text.scanned_of_rejected defaultFile _ refused]

theorem notices_of_scan (text file : Text) (nonempty : text ≠ []) (nulFree : '\x00' ∉ text) :
    notices text = (Scanner.fresh text file none).scan.1.diagnostics.map .ofDiagnostic := by
  have accepted := text.inputError?_eq_none nonempty nulFree
  rw [← noticesIn_eq_notices file, Scanner.scan_fresh_eq_feed text file none nonempty nulFree]
  simp [noticesIn, nonempty, text.scanned_of_accepted file accepted, Scanner.fresh]

structure Notice.Reports (notice : Notice) (source : Text) (diagnostic : Diagnostic) : Prop where
  severity : notice.severity = .warning
  message : notice.message = diagnostic.message
  range : notice.range =
    { startLine := diagnostic.span.start.line - 1
      startCharacter := diagnostic.span.start.column - 1
      stopLine := diagnostic.span.stop.line - 1
      stopCharacter := diagnostic.span.stop.column - 1 }
  marks : notice.range.Marks source diagnostic.word

theorem ofDiagnostic_reports (text file : Text) (nonempty : text ≠ []) (nulFree : '\x00' ∉ text)
    (diagnostic : Diagnostic)
    (member : diagnostic ∈ (Scanner.fresh text file none).scan.1.diagnostics) :
    (Notice.ofDiagnostic diagnostic).Reports text diagnostic := by
  rw [Scanner.scan_fresh_eq_feed text file none nonempty nulFree] at member
  obtain ⟨word, found, problem, rfl⟩ := Context.run_diagnostics_of_words
    (Scanner.fresh text file none).room {} text.events diagnostic member
  rw [text.words_events] at found
  exact ⟨rfl, rfl, rfl, marks_word text word found⟩

def Documents.KeepsLast {W : Type} (documents : Documents W) : Prop :=
  ∀ workspace edit, documents.text? (documents.store workspace edit) edit.uri = some edit.text

theorem Workspace.keepsLast : documents.KeepsLast := by
  intro workspace edit
  exact Table.get?_put_self workspace edit.uri edit.text

namespace Documents

variable {W : Type} (documents : Documents W) (keeps : documents.KeepsLast)

include keeps

theorem update_published (workspace : W) (edit : Edit) :
    (documents.update workspace edit).2 =
      [{ uri := edit.uri, notices := notices edit.text }] := by
  simp [update, publish, keeps workspace edit, noticesIn_eq_notices]

theorem publications_eq_map (workspace : W) (edits : List Edit) :
    documents.publications workspace edits =
      edits.map fun edit => [{ uri := edit.uri, notices := notices edit.text }] := by
  induction edits generalizing workspace with
  | nil => rfl
  | cons edit rest ih =>
    have published := documents.update_published keeps workspace edit
    simp only [publications, published, ih, List.map_cons]

theorem publications_mark_problems (workspace : W) (edits : List Edit) :
    documents.publications workspace edits =
      edits.map (fun edit => [{ uri := edit.uri, notices := notices edit.text }]) ∧
    ∀ edit ∈ edits,
      (edit.text = [] → notices edit.text = []) ∧
      ('\x00' ∈ edit.text → ∃ position, edit.text.FirstNul position ∧
        ∃ range : Range, range.Marks edit.text ['\x00'] ∧
          range = { startLine := position.line - 1, startCharacter := position.column - 1
                    stopLine := position.line - 1, stopCharacter := position.column } ∧
          notices edit.text =
            [{ range, message := "NUL character in source".toList, severity := .error }]) ∧
      (edit.text ≠ [] → '\x00' ∉ edit.text → ∀ file,
        let scanned := (Scanner.fresh edit.text file none).scan
        scanned.2 = none ∧
          List.Forall₂ (fun notice diagnostic => notice.Reports edit.text diagnostic)
            (notices edit.text) scanned.1.diagnostics) := by
  refine ⟨documents.publications_eq_map keeps workspace edits, ?_⟩
  intro edit _
  refine ⟨?_, ?_, ?_⟩
  · intro blank
    rw [blank]
    rfl
  · intro nul
    obtain ⟨position, first, refused⟩ := edit.text.inputError?_of_nul nul
    refine ⟨position, first, _, marks_nul edit.text position first, ?_, ?_⟩
    · simp [Range.ofSpan, Position.advance]
    · rw [notices_of_nul edit.text position refused]
      rfl
  · intro nonempty nulFree file scanned
    have finished : scanned.2 = none := by
      simp only [scanned]
      rw [Scanner.scan_fresh edit.text file none nonempty nulFree (by simp)]
    refine ⟨finished, ?_⟩
    rw [notices_of_scan edit.text file nonempty nulFree, List.forall₂_map_left_iff,
      List.forall₂_same]
    exact ofDiagnostic_reports edit.text file nonempty nulFree

end Documents

theorem Workspace.publications_of_two_documents :
    let warned : Edit :=
      { action := .opened, uri := "file:///a.cs".toList, text := "int x;\n y = x".toList }
    let refused : Edit := { action := .opened, uri := "b".toList, text := "\n\n1 \x00\x00".toList }
    let emptied : Edit := { action := .changed, uri := "file:///a.cs".toList, text := [] }
    documents.KeepsLast ∧
      documents.publications [] [warned, refused, emptied] =
        [[{ uri := warned.uri
            notices := [{ range := ⟨1, 1, 1, 2⟩, message := "undeclared variable `y`".toList
                          severity := .warning }] }],
          [{ uri := refused.uri
             notices := [{ range := ⟨2, 2, 2, 3⟩, message := "NUL character in source".toList
                           severity := .error }] }],
          [{ uri := emptied.uri, notices := [] }]] ∧
      Range.Marks ⟨2, 2, 2, 3⟩ refused.text ['\x00'] := by
  intro warned refused emptied
  obtain ⟨published, each⟩ :=
    documents.publications_mark_problems keepsLast [] [warned, refused, emptied]
  obtain ⟨-, nul, -⟩ := each refused (by simp)
  obtain ⟨position, -, range, marks, -, shown⟩ := nul (by decide)
  have here : notices refused.text =
      [{ range := ⟨2, 2, 2, 3⟩, message := "NUL character in source".toList
         severity := .error }] := by
    decide +kernel
  obtain rfl : range = ⟨2, 2, 2, 3⟩ :=
    congrArg Notice.range (List.cons.inj (shown.symm.trans here)).1
  refine ⟨keepsLast, ?_, marks⟩
  rw [published]
  decide +kernel

end Editor

end LineLexer
