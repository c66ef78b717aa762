import LineLexer.Proofs.Rescan
import LineLexer.Proofs.SpanFidelity
import LineLexer.Proofs.WordDecomposition
import Mathlib.Data.List.Induction

set_option autoImplicit false

namespace LineLexer

theorem Numeral.mem_nat (n : Nat) (c : Char) (member : c ∈ nat n) : c.isDigit = true :=
  Nat.isDigit_of_mem_toDigits (by decide) (by decide) member

theorem Numeral.mem_int (i : Int) (c : Char) (member : c ∈ int i) : c.isDigit = true ∨ c = '-' := by
  cases i with
  | ofNat n => exact .inl (mem_nat n c member)
  | negSucc n =>
    rcases List.mem_cons.mp member with rfl | digit
    · exact .inr rfl
    · exact .inl (mem_nat (n + 1) c digit)

theorem Numeral.flat_int (i : Int) : '\n' ∉ int i := by
  intro broken
  rcases mem_int i '\n' broken with digit | sign
  · exact absurd digit (by decide)
  · exact absurd sign (by decide)

namespace Text

theorem flat_lineAt (source : Text) (number : Int) : '\n' ∉ source.lineAt number := by
  unfold lineAt
  split
  next =>
    cases found : source.lines[(number - 1).toNat]? with
    | none => simp
    | some line => exact not_mem_of_mem_splitOn '\n' source line (List.mem_of_getElem? found)
  next => simp

theorem withoutFinalReturns_concat (line : Text) (c : Char) :
    (line ++ [c]).withoutFinalReturns =
      if c = '\r' then line.withoutFinalReturns else line ++ [c] := by
  simp only [withoutFinalReturns, List.reverse_append, List.reverse_singleton,
    List.singleton_append, List.dropWhile_cons, beq_iff_eq]
  split <;> simp

theorem withoutFinalReturns_append (front back : Text) (last : front.getLast? ≠ some '\r') :
    (front ++ back).withoutFinalReturns = front ++ back.withoutFinalReturns := by
  induction back using List.reverseRecOn with
  | nil =>
    rcases List.eq_nil_or_concat front with rfl | ⟨init, c, rfl⟩
    · rfl
    · have stays : c ≠ '\r' := by simpa using last
      simp [withoutFinalReturns, stays]
  | append_singleton back c ih =>
    rw [← List.append_assoc, withoutFinalReturns_concat, withoutFinalReturns_concat, ih]
    split
    next => rfl
    next => rw [List.append_assoc]

-- What is dropped is returns only, and no return is left at the end.
theorem withoutFinalReturns_spec (line : Text) :
    (∃ count, line = line.withoutFinalReturns ++ List.replicate count '\r') ∧
      line.withoutFinalReturns.getLast? ≠ some '\r' := by
  induction line using List.reverseRecOn with
  | nil => exact ⟨⟨0, rfl⟩, by simp [withoutFinalReturns]⟩
  | append_singleton line c ih =>
    obtain ⟨⟨count, dropped⟩, last⟩ := ih
    rw [withoutFinalReturns_concat]
    split
    next returns =>
      refine ⟨⟨count + 1, ?_⟩, last⟩
      rw [List.replicate_succ', ← List.append_assoc, ← dropped, returns]
    next stays => exact ⟨⟨0, by simp⟩, by simpa using stays⟩

def overCarets (upper lower : Text) : Text :=
  ((upper.zip lower).filter (·.2 == '^')).map Prod.fst

theorem overCarets_append (upper upper' lower lower' : Text)
    (aligned : upper.length = lower.length) :
    overCarets (upper ++ upper') (lower ++ lower') =
      overCarets upper lower ++ overCarets upper' lower' := by
  simp [overCarets, List.zip_append aligned]

theorem overCarets_of_unmarked (upper lower : Text) (unmarked : '^' ∉ lower) :
    overCarets upper lower = [] := by
  rw [overCarets, List.map_eq_nil_iff, List.filter_eq_nil_iff]
  rintro ⟨above, c⟩ member
  have inside : c ∈ lower := (List.of_mem_zip member).2
  have different : c ≠ '^' := fun same => unmarked (same ▸ inside)
  simpa using different

theorem overCarets_carets (shown rest : Text) :
    overCarets (shown ++ rest) (List.replicate shown.length '^') = shown := by
  induction shown with
  | nil => simp [overCarets]
  | cons c shown ih => simpa [overCarets, List.replicate_succ] using ih

def caretsFrom (column : Int) (width : Nat) : Text :=
  spaces (column - 1).toNat ++ List.replicate width '^'

theorem overCarets_behind (gutter below before shown after : Text)
    (aligned : gutter.length = below.length) (unmarked : '^' ∉ below) :
    overCarets (gutter ++ ' ' :: (before ++ shown ++ after))
        (below ++ ' ' :: caretsFrom (before.length + 1) shown.length) = shown := by
  have indented : ((before.length : Int) + 1 - 1).toNat = before.length := by omega
  have indent : '^' ∉ ' ' :: spaces before.length := by simp [spaces]
  have shape (start middle rest : Text) : start ++ ' ' :: (middle ++ rest) =
      start ++ (' ' :: middle ++ rest) := by simp
  rw [caretsFrom, indented, List.append_assoc, shape, shape, overCarets_append _ _ _ _ aligned,
    overCarets_append _ _ _ _ (by simp), overCarets_of_unmarked _ _ unmarked,
    overCarets_of_unmarked _ _ indent, overCarets_carets]
  rfl

end Text

structure Framed (block : Text) (above : List Text) (gutter below shown marks : Text) : Prop where
  lines : block.lines = above ++ [gutter ++ ' ' :: shown, below ++ ' ' :: marks]
  aligned : gutter.length = below.length
  bars : gutter.getLast? = some '|' ∧ below.getLast? = some '|'

namespace Excerpt

variable (excerpt : Excerpt) (source file : Text)

def gutter : Text :=
  Numeral.int excerpt.start.line ++ " |".toList

def blankGutter : Text :=
  excerpt.margin ++ ['|']

def shown : Text :=
  (source.lineAt excerpt.start.line).withoutFinalReturns

def marks : Text :=
  Text.caretsFrom excerpt.start.column (max 1 excerpt.width.toNat)

theorem flat_gutter : '\n' ∉ excerpt.gutter := by
  simp [gutter, Numeral.flat_int]

theorem flat_shown : '\n' ∉ excerpt.shown source := by
  intro broken
  obtain ⟨⟨count, whole⟩, -⟩ := Text.withoutFinalReturns_spec (source.lineAt excerpt.start.line)
  apply source.flat_lineAt excerpt.start.line
  rw [whole]
  exact List.mem_append_left _ broken

theorem flat_marks : '\n' ∉ excerpt.marks := by
  simp [marks, Text.caretsFrom, Text.spaces]

theorem flat_blankGutter : '\n' ∉ excerpt.blankGutter := by
  simp [blankGutter, margin, Text.spaces]

theorem framed :
    Framed (excerpt.render source file)
      (excerpt.headline.lines ++ (excerpt.location file).lines ++ [excerpt.blankGutter])
      excerpt.gutter excerpt.blankGutter (excerpt.shown source) excerpt.marks where
  lines := by
    have whole : excerpt.render source file =
        excerpt.headline ++ '\n' :: (excerpt.location file ++ '\n' :: (excerpt.blankGutter ++
          '\n' :: ((excerpt.gutter ++ ' ' :: excerpt.shown source) ++
            '\n' :: (excerpt.blankGutter ++ ' ' :: excerpt.marks)))) := by
      simp [render, sourceLine, underline, gutter, blankGutter, shown, marks, Text.caretsFrom,
        carets]
    have upper : '\n' ∉ excerpt.gutter ++ ' ' :: excerpt.shown source := by
      simp [flat_gutter, flat_shown]
    have lower : '\n' ∉ excerpt.blankGutter ++ ' ' :: excerpt.marks := by
      simp [flat_blankGutter, flat_marks]
    rw [whole, Text.lines_append_newline, Text.lines_append_newline, Text.lines_append_newline,
      Text.lines_append_newline, Text.lines_of_flat _ excerpt.flat_blankGutter,
      Text.lines_of_flat _ upper, Text.lines_of_flat _ lower]
    simp
  aligned := by simp [gutter, blankGutter, margin]
  bars := by simp [gutter, blankGutter]

theorem length_lines_render (flat : '\n' ∉ excerpt.headline) (plain : '\n' ∉ file) :
    (excerpt.render source file).lines.length = 5 := by
  have located : '\n' ∉ excerpt.location file := by
    simp [location, margin, Text.spaces, plain, Numeral.flat_int]
  rw [(excerpt.framed source file).lines, Text.lines_of_flat _ flat, Text.lines_of_flat _ located]
  rfl

end Excerpt

structure Underlines (block source file : Text) (start : Position) (text : Text) : Prop where
  standing : 1 ≤ start.line ∧ 1 ≤ start.column
  framed : ∃ above gutter below shown,
    Framed block above gutter below shown (Text.caretsFrom start.column text.length) ∧
      (∃ count, source.lines[(start.line - 1).toNat]? =
        some (shown ++ List.replicate count '\r')) ∧
      shown.getLast? ≠ some '\r' ∧
      Text.overCarets (gutter ++ ' ' :: shown)
        (below ++ ' ' :: Text.caretsFrom start.column text.length) = text
  oneBlock : '\n' ∉ file → block.lines.length = 5

theorem Text.lineAt_of_getElem? (source line : Text) (index : Nat)
    (standing : source.lines[index]? = some line) : source.lineAt (index + 1) = line := by
  have numbered : (1 : Int) ≤ index + 1 := by omega
  simp [lineAt, numbered, standing]

theorem Excerpt.underlines (excerpt : Excerpt) (source file before text after : Text)
    (index : Nat) (standing : source.lines[index]? = some (before ++ text ++ after))
    (start : excerpt.start = { line := index + 1, column := before.length + 1 })
    (wide : excerpt.width = text.length) (filled : text ≠ []) (last : text.getLast? ≠ some '\r')
    (flat : '\n' ∉ excerpt.headline) :
    Underlines (excerpt.render source file) source file excerpt.start text where
  standing := by
    simp only [start]
    omega
  framed := by
    have shown : excerpt.shown source = before ++ text ++ after.withoutFinalReturns := by
      rw [Excerpt.shown, start, source.lineAt_of_getElem? _ index standing]
      apply Text.withoutFinalReturns_append
      rwa [List.getLast?_append_of_ne_nil before filled]
    have marks : excerpt.marks = Text.caretsFrom excerpt.start.column text.length := by
      have positive := List.length_pos_iff.mpr filled
      have width : max 1 excerpt.width.toNat = text.length := by omega
      rw [Excerpt.marks, width]
    have block := excerpt.framed source file
    have unmarked : '^' ∉ excerpt.blankGutter := by simp [blankGutter, margin, Text.spaces]
    obtain ⟨⟨count, dropped⟩, kept⟩ :=
      Text.withoutFinalReturns_spec (source.lineAt excerpt.start.line)
    rw [marks] at block
    refine ⟨_, _, _, excerpt.shown source, block, ⟨count, ?_⟩, kept, ?_⟩
    · have numbered : ((index : Int) + 1 - 1).toNat = index := by omega
      rw [Excerpt.shown, ← dropped, start, source.lineAt_of_getElem? _ index standing, numbered]
      exact standing
    · rw [shown, start]
      exact Text.overCarets_behind _ _ before text _ block.aligned unmarked
  oneBlock := excerpt.length_lines_render source file flat

namespace Excerpt

@[simp] theorem warning_start (message : Text) (span : Span) :
    (warning message span).start = span.start := rfl

@[simp] theorem warning_width (message : Text) (span : Span) :
    (warning message span).width =
      if span.stop.line = span.start.line then span.stop.column - span.start.column else 1 := rfl

theorem flat_warning (message : Text) (span : Span) (flat : '\n' ∉ message) :
    '\n' ∉ (warning message span).headline := by
  change '\n' ∉ "warning".toList ++ ": ".toList ++ message
  simp [flat]

end Excerpt

theorem Diagnostic.underlines (source file : Text) (word : Word)
    (member : word ∈ source.sourceWords) (problem : Problem) :
    Underlines ((word.diagnostic problem).render source file) source file word.span.start
      word.text := by
  obtain ⟨index, line, standing, found⟩ := source.mem_sourceWords_line word member
  obtain ⟨before, after, stands, -⟩ := (line.mem_words_iff _ word).mp found
  obtain ⟨-, -, filled, stop⟩ := line.mem_words _ word found
  have solid := line.solid_of_mem_words _ word found
  rw [stands.split] at standing
  refine (Excerpt.warning _ word.span).underlines source file before word.text after index
    standing ?_ ?_ filled ?_ (Excerpt.flat_warning _ _ ?_)
  · simp [stands.start]
  · simp only [Excerpt.warning_width, stop, Position.advance, if_true]
    omega
  · intro last
    exact absurd (solid '\r' (List.mem_of_getLast? last)) (by decide)
  · have flat : '\n' ∉ word.text := fun broken => absurd (solid '\n' broken) (by decide)
    cases problem <;> simp [Diagnostic.message, Word.diagnostic, flat]

theorem InputError.underlines (source file : Text) (position : Position)
    (first : source.FirstNul position) :
    Underlines ((InputError.nul position).render source file) source file position ['\x00'] := by
  obtain ⟨above, front, back, below, lines, -, -, rfl⟩ := first
  refine (Excerpt.error _ _).underlines source file front ['\x00'] back above.length ?_ rfl rfl
    (by simp) (by simp) ?_
  · simp [lines]
  · change '\n' ∉ "error".toList ++ ": ".toList ++ "NUL character in source".toList
    decide

theorem widthError?_eq_none (width : Int) (low : -0x8000000000000000 ≤ width)
    (high : width < 0x1000000000) : widthError? width = none := by
  have inIndex : ¬ (width < -0x8000000000000000 ∨ 0x8000000000000000 ≤ width) := by omega
  have inMemory : ¬ 0x1000000000 ≤ width := by omega
  rw [widthError?, if_neg inIndex, if_neg inMemory]

theorem Excerpt.compose_eq_ok (excerpt : Excerpt) (source file : Text)
    (left : -0x8000000000000000 < excerpt.start.column)
    (right : excerpt.start.column ≤ 0x1000000000) (narrow : excerpt.width < 0x1000000000) :
    excerpt.compose source file = .ok (excerpt.render source file) := by
  have indent := widthError?_eq_none (excerpt.start.column - 1) (by omega) (by omega)
  have marked := widthError?_eq_none (max 1 excerpt.width) (by omega) (by omega)
  simp [compose, indent, marked]

namespace Scanner

structure ReportsOn (scanner : Scanner) (source : Text) : Prop where
  reads : scanner.source = source
  standard : scanner.grammar = .standard
  about : ∀ diagnostic ∈ scanner.diagnostics,
    ∃ word ∈ source.sourceWords, ∃ problem, diagnostic = word.diagnostic problem

theorem ReportsOn.scan {scanner : Scanner} {source : Text} (reports : scanner.ReportsOn source) :
    scanner.scan.1.ReportsOn source where
  reads := scanner.scan_keeps.1.trans reports.reads
  standard := scanner.scan_keeps.2.trans reports.standard
  about := by
    unfold Scanner.scan
    cases scanner.source.inputError? with
    | some error => exact reports.about
    | none =>
      intro diagnostic member
      rcases List.mem_append.mp member with earlier | added
      · exact reports.about diagnostic earlier
      · rw [reports.standard] at added
        have found := Context.run_diagnostics_of_words _ _ _ diagnostic added
        rwa [Text.words_events, reports.reads] at found

theorem reports_underlined (source file name : Text) (sink : Option Sink) (count : Nat) :
    (∀ diagnostic ∈ ((fresh source file sink).rescanned count).diagnostics,
      Underlines (diagnostic.render source name) source name diagnostic.span.start
        diagnostic.word) ∧
    ('\x00' ∈ source → ∃ position, source.FirstNul position ∧
      (fresh source file sink).scan.2 = some (.rejected (.nul position)) ∧
      Underlines ((InputError.nul position).render source name) source name position ['\x00']) ∧
    ∀ (message : Text) (span : Span),
      let excerpt := Excerpt.warning message span
      (∃ above gutter below shown carets, 1 ≤ carets ∧
        Framed (excerpt.render source name) above gutter below shown
          (Text.caretsFrom span.start.column carets)) ∧
      (-0x8000000000000000 < span.start.column → span.start.column ≤ 0x1000000000 →
        excerpt.width < 0x1000000000 →
          excerpt.compose source name = .ok (excerpt.render source name)) := by
  refine ⟨?_, ?_, ?_⟩
  · intro diagnostic member
    have start : (fresh source file sink).ReportsOn source := ⟨rfl, rfl, by simp [fresh]⟩
    have reports := rescanned_induction (motive := (ReportsOn · source)) _ start
      (fun _ => ReportsOn.scan) count
    obtain ⟨word, found, problem, rfl⟩ := reports.about diagnostic member
    exact Diagnostic.underlines source name word found problem
  · intro nul
    obtain ⟨position, first, refused⟩ := source.inputError?_of_nul nul
    have rejected : (fresh source file sink).source.inputError? = some (.nul position) := refused
    exact ⟨position, first, by simp [scan, rejected],
      InputError.underlines source name position first⟩
  · intro message span excerpt
    have framed := excerpt.framed source name
    exact ⟨⟨_, _, _, _, _, Nat.le_max_left 1 _, framed⟩, excerpt.compose_eq_ok source name⟩

theorem reports_underlined_before_returns :
    let source : Text := "z\r\n\té yy\r\r\nint z".toList
    let spoiled : Text := "a\n\tb\x00 \x00".toList
    let word := Word.startingAt { line := 2, column := 4 } "yy".toList
    let diagnostic := word.diagnostic .undeclared
    diagnostic ∈ ((fresh source defaultFile none).rescanned 2).diagnostics ∧
      Underlines (diagnostic.render source "a.cs".toList) source "a.cs".toList
        { line := 2, column := 4 } "yy".toList ∧
      '\x00' ∈ spoiled ∧ ∃ position, spoiled.FirstNul position ∧
        Underlines ((InputError.nul position).render spoiled "a.cs".toList) spoiled "a.cs".toList
          position ['\x00'] := by
  intro source spoiled word diagnostic
  obtain ⟨warned, -, -⟩ := reports_underlined source defaultFile "a.cs".toList none 2
  obtain ⟨-, refused, -⟩ := reports_underlined spoiled defaultFile "a.cs".toList none 0
  have member : diagnostic ∈ ((fresh source defaultFile none).rescanned 2).diagnostics := by
    decide +kernel
  have nul : '\x00' ∈ spoiled := by decide
  obtain ⟨position, first, -, underlined⟩ := refused nul
  exact ⟨member, warned diagnostic member, nul, position, first, underlined⟩

end Scanner

end LineLexer
