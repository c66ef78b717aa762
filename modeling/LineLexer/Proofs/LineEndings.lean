import LineLexer.CommandLine.Run
import LineLexer.Editor
import LineLexer.Proofs.Encoding
import LineLexer.Proofs.FreshScan
import LineLexer.Proofs.WordTexts

set_option autoImplicit false

namespace LineLexer

namespace Text

theorem withoutReturns_cons (c : Char) (rest : Text)
    (stays : c = '\r' → rest.head? ≠ some '\n') :
    withoutReturns (c :: rest) = c :: withoutReturns rest := by
  apply withoutReturns.eq_3
  intro later returns follows
  exact stays returns (by simp [follows])

def Unreturned (line plain : Text) : Prop :=
  line = plain ∨ line = plain ++ ['\r']

theorem withoutReturns_of_flat (line : Text) (flat : '\n' ∉ line) : line.withoutReturns = line := by
  induction line with
  | nil => rfl
  | cons c line ih =>
    obtain ⟨-, flat⟩ : '\n' ≠ c ∧ '\n' ∉ line := by simpa using flat
    have stays : line.head? ≠ some '\n' := fun begins => flat (List.mem_of_mem_head? begins)
    rw [withoutReturns_cons c line fun _ => stays, ih flat]

theorem withoutReturns_append (line rest : Text) (flat : '\n' ∉ line) :
    ∃ plain, Unreturned line plain ∧
      (line ++ '\n' :: rest).withoutReturns = plain ++ '\n' :: rest.withoutReturns := by
  have broken : withoutReturns ('\n' :: rest) = '\n' :: rest.withoutReturns :=
    withoutReturns_cons '\n' rest (by simp)
  induction line with
  | nil => exact ⟨[], .inl rfl, broken⟩
  | cons c line ih =>
    obtain ⟨-, flat⟩ : '\n' ≠ c ∧ '\n' ∉ line := by simpa using flat
    obtain ⟨plain, same, whole⟩ := ih flat
    by_cases last : c = '\r' ∧ line = []
    next =>
      obtain ⟨rfl, rfl⟩ := last
      exact ⟨[], .inr rfl, rfl⟩
    next =>
      refine ⟨c :: plain, ?_, ?_⟩
      · rcases same with rfl | rfl
        · exact .inl rfl
        · exact .inr rfl
      · have stays : c = '\r' → (line ++ '\n' :: rest).head? ≠ some '\n' := by
          rintro rfl
          cases line with
          | nil => simp at last
          | cons d line =>
            obtain ⟨inLine, -⟩ : '\n' ≠ d ∧ '\n' ∉ line := by simpa using flat
            simpa using inLine.symm
        rw [List.cons_append, withoutReturns_cons c _ stays, whole]
        rfl

theorem lines_withoutReturns (source : Text) :
    List.Forall₂ Unreturned source.lines source.withoutReturns.lines := by
  induction source using lines_induction with
  | last line flat =>
    rw [withoutReturns_of_flat line flat, lines_of_flat line flat]
    exact .cons (.inl rfl) .nil
  | above line rest flat ih =>
    obtain ⟨plain, same, whole⟩ := withoutReturns_append line rest flat
    have flat' : '\n' ∉ plain := by
      intro broken
      rcases same with rfl | rfl
      · exact flat broken
      · exact flat (List.mem_append_left _ broken)
    rw [whole, lines_append_newline, lines_append_newline, lines_of_flat line flat,
      lines_of_flat plain flat']
    exact .cons same ih

theorem Unreturned.words_eq {line plain : Text} (same : Unreturned line plain) (number : Int) :
    plain.words number = line.words number := by
  rcases same with rfl | rfl
  · rfl
  · exact (plain.words_append_blank number '\r' (by decide)).symm

theorem Unreturned.withoutFinalReturns_eq {line plain : Text} (same : Unreturned line plain) :
    plain.withoutFinalReturns = line.withoutFinalReturns := by
  rcases same with rfl | rfl
  · rfl
  · simp [withoutFinalReturns]

theorem ofLines_unreturned {lines plain : List Text} (same : List.Forall₂ Unreturned lines plain)
    (number : Int) : Event.ofLines number plain = Event.ofLines number lines := by
  induction same generalizing number with
  | nil => rfl
  | cons same rest ih => simp [Event.ofLines, same.words_eq, ih]

theorem map_withoutFinalReturns {lines plain : List Text}
    (same : List.Forall₂ Unreturned lines plain) :
    plain.map withoutFinalReturns = lines.map withoutFinalReturns := by
  induction same with
  | nil => rfl
  | cons same rest ih => simp [same.withoutFinalReturns_eq, ih]

theorem events_withoutReturns (source : Text) : source.withoutReturns.events = source.events :=
  ofLines_unreturned source.lines_withoutReturns 1

theorem lineAt_withoutReturns (source : Text) (number : Int) :
    (source.withoutReturns.lineAt number).withoutFinalReturns =
      (source.lineAt number).withoutFinalReturns := by
  have shown (lines : List Text) (index : Nat) : (lines[index]?.getD []).withoutFinalReturns =
      (lines.map withoutFinalReturns)[index]?.getD [] := by
    rw [List.getElem?_map]
    cases lines[index]? <;> rfl
  unfold lineAt
  split
  next => rw [shown, shown, map_withoutFinalReturns source.lines_withoutReturns]
  next => rfl

-- A NUL never stands between a return and its line feed.
theorem takeWhile_withoutReturns (source : Text) :
    source.withoutReturns.takeWhile (· != '\x00') =
      withoutReturns (source.takeWhile (· != '\x00')) := by
  fun_induction withoutReturns source with
  | case1 => rfl
  | case2 rest ih => simp [withoutReturns, ih]
  | case3 c rest stays ih =>
    by_cases nul : c = '\x00'
    next => simp [nul, withoutReturns]
    next =>
      have stays' : c = '\r' → (rest.takeWhile (· != '\x00')).head? ≠ some '\n' := by
        intro returns begins
        cases rest with
        | nil => simp at begins
        | cons d rest =>
          by_cases cut : d = '\x00'
          next => simp [cut] at begins
          next =>
            obtain rfl : d = '\n' := by simpa [cut] using begins
            exact stays rest returns rfl
      simp [nul, withoutReturns_cons c _ stays', ih]

theorem count_withoutReturns (kept : Char) (other : kept ≠ '\r') (source : Text) :
    source.withoutReturns.count kept = source.count kept := by
  fun_induction withoutReturns source with
  | case1 => rfl
  | case2 rest ih => simp [List.count_cons, ih, other.symm]
  | case3 c rest stays ih => simp [List.count_cons, ih]

theorem position_after_withoutReturns (before : Text) :
    Position.after before.withoutReturns = Position.after before := by
  have column : afterLast '\n' before.withoutReturns = afterLast '\n' before := by
    induction before using lines_induction with
    | last line flat => rw [withoutReturns_of_flat line flat]
    | above line rest flat ih =>
      obtain ⟨plain, -, whole⟩ := withoutReturns_append line rest flat
      rw [whole, afterLast_append, afterLast_append, ih]
  rw [Position.after, column, count_withoutReturns '\n' (by decide)]
  rfl

theorem withoutReturns_isEmpty (source : Text) :
    source.withoutReturns.isEmpty = source.isEmpty := by
  fun_cases withoutReturns source <;> rfl

theorem inputError?_withoutReturns (source : Text) :
    source.withoutReturns.inputError? = source.inputError? := by
  have nul : '\x00' ∈ source.withoutReturns ↔ '\x00' ∈ source := by
    rw [← List.count_pos_iff, ← List.count_pos_iff, count_withoutReturns _ (by decide)]
  simp only [inputError?, withoutReturns_isEmpty, List.contains_iff_mem, nul,
    takeWhile_withoutReturns, position_after_withoutReturns]

def ReturnsPaired (text : Text) : Prop :=
  ∀ index < text.length, text[index]? = some '\r' → text[index + 1]? = some '\n'

theorem ReturnsPaired.tail {c : Char} {text : Text} (paired : ReturnsPaired (c :: text)) :
    text.ReturnsPaired := by
  intro index bound returns
  have later := paired (index + 1) (by simpa using bound)
  simp only [List.getElem?_cons_succ] at later
  exact later returns

theorem ReturnsPaired.universalNewlines_eq {text : Text} (paired : text.ReturnsPaired) :
    text.universalNewlines = text.withoutReturns := by
  fun_induction universalNewlines text with
  | case1 => rfl
  | case2 rest ih => simp [withoutReturns, ih paired.tail.tail]
  | case3 rest alone ih =>
    have follows : rest[0]? = some '\n' := by simpa using paired 0 (by simp)
    cases rest with
    | nil => simp at follows
    | cons c rest =>
      obtain rfl : c = '\n' := by simpa using follows
      exact absurd rfl (alone rest)
  | case4 c rest together alone ih =>
    rw [withoutReturns_cons c rest fun returns => absurd returns alone, ih paired.tail]

end Text

theorem Excerpt.render_withoutReturns (excerpt : Excerpt) (source file : Text) :
    excerpt.render source.withoutReturns file = excerpt.render source file := by
  simp only [Excerpt.render, Excerpt.sourceLine, Text.lineAt_withoutReturns]

theorem Diagnostic.render_withoutReturns (diagnostic : Diagnostic) (source file : Text) :
    diagnostic.render source.withoutReturns file = diagnostic.render source file :=
  Excerpt.render_withoutReturns _ source file

theorem InputError.render_withoutReturns (error : InputError) (source file : Text) :
    error.render source.withoutReturns file = error.render source file := by
  cases error with
  | empty => rfl
  | nul position => exact Excerpt.render_withoutReturns _ source file

theorem Scanner.scan_withoutReturns (source file : Text) (sink : Option Sink) :
    (fresh source.withoutReturns file sink).scan =
      ({ (fresh source file sink).scan.1 with source := source.withoutReturns },
        (fresh source file sink).scan.2) := by
  simp only [scan, fresh, Text.inputError?_withoutReturns, Text.events_withoutReturns]
  cases source.inputError? <;> rfl

theorem Text.scanned_withoutReturns (source file : Text) :
    source.withoutReturns.scanned file =
      (source.scanned file).map fun scanner =>
        { scanner with source := source.withoutReturns } := by
  have valid := source.inputError?_withoutReturns
  cases found : source.inputError? with
  | some error =>
    rw [source.scanned_of_rejected file error found,
      source.withoutReturns.scanned_of_rejected file error (valid.trans found)]
    rfl
  | none =>
    rw [source.scanned_of_accepted file found,
      source.withoutReturns.scanned_of_accepted file (valid.trans found),
      source.events_withoutReturns]
    rfl

theorem Text.tokens_eq_scanned (text file : Text) :
    text.tokens = (text.scanned file).map Scanner.tokens := by
  rw [Text.tokens, text.scanned_renamed file defaultFile]
  cases text.scanned file <;> rfl

theorem Editor.notices_eq_scanned (text file : Text) :
    notices text =
      match text.scanned file with
      | .error error => if text = [] then [] else [.ofInputError error]
      | .ok scanner => scanner.diagnostics.map .ofDiagnostic := by
  by_cases blank : text = []
  · subst blank
    rfl
  · have filled : text.isEmpty = false := by simpa using blank
    rw [notices, noticesIn, filled, text.scanned_renamed file defaultFile]
    cases text.scanned file with
    | error error => simp [Except.map, blank]
    | ok scanner => rfl

namespace CommandLine.Options

variable (options : Options) (tree : FileTree)

theorem reports_withoutReturns (scanner : Scanner) :
    options.reports { scanner with source := scanner.source.withoutReturns } =
      options.reports scanner := by
  simp only [reports, Diagnostic.render_withoutReturns]
  rfl

theorem scanSource_withoutReturns (source : Text) :
    options.scanSource tree source.withoutReturns = options.scanSource tree source := by
  unfold scanSource
  rw [source.scanned_withoutReturns]
  cases found : source.scanned options.displayName with
  | error error => simp only [Except.map, InputError.render_withoutReturns]
  | ok scanner =>
    obtain ⟨rfl, -⟩ := source.of_scanned _ scanner found
    simp only [Except.map, reports_withoutReturns]

theorem source_of_content (stdin : Bytes) (text : Text)
    (given : options.content tree stdin = .ok text.utf8) :
    options.source tree stdin = .ok text.universalNewlines := by
  simp only [source, given, bind, Except.bind, Utf8.decode_utf8]
  rfl

end CommandLine.Options

theorem Scanner.scan_ignores_returns :
    (∀ (source file : Text) (sink : Option Sink), (∀ receiver ∈ sink, receiver.limit = none) →
      let plain := source.withoutReturns
      let left := (fresh source file sink).scan
      let right := (fresh plain file sink).scan
      (∃ error, left.2 = some (.rejected error) ∧ right.2 = some (.rejected error) ∧
        ∀ name, error.render source name = error.render plain name) ∨
      (left.2 = none ∧ right.2 = none ∧ left.1.tokens = right.1.tokens ∧
        left.1.context = right.1.context ∧ left.1.diagnostics = right.1.diagnostics ∧
        ∀ diagnostic ∈ left.1.diagnostics, ∀ name,
          diagnostic.render source name = diagnostic.render plain name)) ∧
    ∀ text : Text, text.ReturnsPaired →
      ∀ (options : CommandLine.Options) (tree : FileTree) (stdin : Bytes),
        options.content tree stdin = .ok text.utf8 →
        let found := text.scanned options.displayName
        ∃ translated, options.source tree stdin = .ok translated ∧
          translated.scanned options.displayName =
            found.map (fun scanner => { scanner with source := translated }) ∧
          options.run tree stdin = options.scanSource tree text ∧
          text.tokens = found.map Scanner.tokens ∧
          Editor.notices text =
            match found with
            | .error error => if text = [] then [] else [.ofInputError error]
            | .ok scanner => scanner.diagnostics.map .ofDiagnostic := by
  constructor
  · intro source file sink accepting plain left right
    have same : right = ({ left.1 with source := plain }, left.2) :=
      scan_withoutReturns source file sink
    rw [same]
    cases found : source.inputError? with
    | some error =>
      have rejected : (fresh source file sink).source.inputError? = some error := found
      have halted : left.2 = some (.rejected error) := by simp [left, scan, rejected]
      exact .inl ⟨error, halted, halted, fun name => (error.render_withoutReturns source name).symm⟩
    | none =>
      have valid : (fresh source file sink).source.inputError? = none := found
      have room := room_fresh source file sink accepting
      have completed : left.2 = none := by
        simp only [left, scan, valid, feed_unbounded _ rfl room]
      exact .inr ⟨completed, completed, rfl, rfl, rfl,
        fun diagnostic _ name => (diagnostic.render_withoutReturns source name).symm⟩
  · intro text paired options tree stdin given found
    have read := options.source_of_content tree stdin text given
    rw [paired.universalNewlines_eq] at read
    refine ⟨text.withoutReturns, read, text.scanned_withoutReturns _, ?_,
      text.tokens_eq_scanned _, Editor.notices_eq_scanned text _⟩
    rw [CommandLine.Options.run, read]
    exact options.scanSource_withoutReturns tree text

theorem Scanner.scan_ignores_returns_in_literal :
    let source : Text := "int x\r\n\r\n\"a\r\nb\" y\r\n".toList
    let left := (fresh source defaultFile (some {})).scan
    let right := (fresh source.withoutReturns defaultFile (some {})).scan
    let options : CommandLine.Options :=
      { input := none, output := none, format := .chosen .json, diagnostics := true, debug := true }
    source.withoutReturns ≠ source ∧ left.1.tokens = right.1.tokens ∧
      left.1.diagnostics ≠ [] ∧ left.1.diagnostics = right.1.diagnostics ∧
      source.ReturnsPaired ∧ options.run {} source.utf8 = options.scanSource {} source := by
  intro source left right options
  have completed : left.2 = none := by decide +kernel
  have paired : source.ReturnsPaired := by
    unfold Text.ReturnsPaired
    decide +kernel
  obtain ⟨alike, read⟩ := scan_ignores_returns
  rcases alike source defaultFile (some {}) (by simp) with
    ⟨error, halted, -⟩ | ⟨-, -, tokens, -, diagnostics, -⟩
  · exact absurd (completed.symm.trans halted) (by simp)
  · obtain ⟨-, -, -, same, -⟩ := read source paired options {} source.utf8 rfl
    exact ⟨by decide +kernel, tokens, by decide +kernel, diagnostics, paired, same⟩

end LineLexer
