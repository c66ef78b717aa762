import LineLexer.Proofs.DeclaredNames
import LineLexer.Proofs.JsonListing
import LineLexer.Proofs.ListingReader
import LineLexer.Proofs.QuotedText
import LineLexer.Proofs.Rejection
import LineLexer.Scanner

set_option autoImplicit false

namespace LineLexer

namespace Text

def commaParts (text : Text) : List Text :=
  (text.splitOn ',').map (·.dropWhile (· == ' '))

theorem commaParts_commaSeparated (parts : List Text) (filled : parts ≠ [])
    (plain : ∀ part ∈ parts, ',' ∉ part ∧ ' ' ∉ part) :
    (commaSeparated parts).commaParts = parts := by
  have trimmed (margin : Nat) (part : Text) (solid : ' ' ∉ part) :
      (spaces margin ++ part).dropWhile (· == ' ') = part := by
    refine (takeWhile_run (· == ' ') (spaces margin) part (by simp [spaces]) ?_).2
    intro c first
    have different : c ≠ ' ' := fun same => solid (same ▸ List.mem_of_mem_head? first)
    simpa using different
  have split (margin : Nat) : (spaces margin ++ commaSeparated parts).commaParts = parts := by
    induction parts generalizing margin with
    | nil => contradiction
    | cons part parts ih =>
      obtain ⟨⟨whole, solid⟩, later⟩ := List.forall_mem_cons.mp plain
      have unsplit : ',' ∉ spaces margin ++ part := by simp [spaces, whole]
      cases parts with
      | nil =>
        rw [commaSeparated, List.intercalate_singleton, commaParts,
          List.splitOn_eq_singleton unsplit, List.map_singleton, trimmed margin part solid]
      | cons next parts =>
        have others := ih (by simp) later 1
        have cut : spaces margin ++ commaSeparated (part :: next :: parts) =
            (spaces margin ++ part) ++ ',' :: (spaces 1 ++ commaSeparated (next :: parts)) := by
          simp [commaSeparated, List.intercalate_cons_cons, spaces]
        rw [cut, commaParts, List.splitOn_append_cons_self, List.map_append,
          List.splitOn_eq_singleton unsplit, List.map_singleton, trimmed margin part solid]
        exact congrArg (part :: ·) others
  exact split 0

end Text

namespace Scanner

def dumpRow (token : Token) : Text :=
  "  ".toList ++ Numeral.int token.span.start.line ++ ':' :: Numeral.int token.span.start.column ++
    ' ' :: token.kind.label ++ ' ' :: token.value.quoted

def namesRow (names : Names) : Text :=
  "Declared: ".toList ++ dumpNames names

def countRow (diagnostics : List Diagnostic) : Text :=
  "Diagnostics: ".toList ++ Numeral.nat diagnostics.length

theorem dumpRow_fields (left right : Token) (same : dumpRow left = dumpRow right) :
    left.fields = right.fields := by
  have unmarked (mark : Char) (other : mark ∉ '-' :: decimalDigits) (i : Int) :
      mark ∉ Numeral.int i :=
    mt (Numeral.chars_int i mark) other
  have unblank (kind : Kind) : ' ' ∉ kind.label := kind.not_mem_label ' ' (by decide)
  simp only [dumpRow, List.append_assoc, List.cons_append, List.append_cancel_left_eq] at same
  obtain ⟨line, same⟩ := Text.eq_of_first_mark ':' _ _ _ _ (unmarked ':' (by decide) _)
    (unmarked ':' (by decide) _) same
  obtain ⟨column, same⟩ := Text.eq_of_first_mark ' ' _ _ _ _ (unmarked ' ' (by decide) _)
    (unmarked ' ' (by decide) _) same
  obtain ⟨label, quoted⟩ := Text.eq_of_first_mark ' ' _ _ _ _ (unblank _) (unblank _) same
  have value : left.value = right.value := by
    have read := congrArg Text.unquoted? quoted
    simpa only [Text.unquoted?_quoted, Option.some.injEq] using read
  simp only [Token.fields, value, label, Numeral.int_injective line, Numeral.int_injective column]

theorem dumpRow_congr (left right : Token) (same : left.fields = right.fields) :
    dumpRow left = dumpRow right := by
  simp only [Token.fields, Prod.mk.injEq] at same
  obtain ⟨value, label, line, column⟩ := same
  rw [dumpRow, dumpRow, value, label, line, column]

theorem flat_dumpRow (token : Token) : '\n' ∉ dumpRow token := by
  have quoted : '\n' ∉ token.value.quoted := fun inside =>
    token.value.quoted_unbroken '\n' inside (by decide)
  simp [dumpRow, Numeral.flat_int, token.kind.not_mem_label '\n' (by decide), quoted]

theorem plain_name (name : Text) (identifier : name.isIdentifier = true) :
    ∀ c ∈ ['\n', ' ', ',', '('], c ∉ name := by
  have marks : ∀ c ∈ ['\n', ' ', ',', '('], isWordChar c = false :=
    forall_mem_of_all _ (by decide +kernel)
  obtain ⟨-, within⟩ := Text.isWordChar_of_isIdentifier name identifier
  intro c mark inside
  simpa [marks c mark] using within c inside

structure ShowsNames (names : Names) (shown : Text) : Prop where
  increasing : names.toList.Pairwise (· < ·)
  flat : '\n' ∉ shown
  listed : names.toList ≠ [] → shown.commaParts = names.toList
  none : "(none)".toList <:+: shown ↔ names.toList = []

theorem not_mem_commaSeparated (names : List Text)
    (shaped : ∀ name ∈ names, name.isIdentifier = true) :
    ∀ c ∈ ['\n', '('], c ∉ Text.commaSeparated names := by
  have marks : ∀ c ∈ ['\n', '('], c ∉ ", ".toList ∧ c ∈ ['\n', ' ', ',', '('] :=
    forall_mem_of_all _ (by decide)
  intro c mark inside
  rcases Text.mem_intercalate _ names c inside with between | ⟨name, member, here⟩
  · exact (marks c mark).1 between
  · exact plain_name name (shaped name member) c (marks c mark).2 here

theorem showsNames (names : Names) (shaped : ∀ name ∈ names, name.isIdentifier = true) :
    ShowsNames names (dumpNames names) := by
  unfold dumpNames
  split
  next empty =>
    exact ⟨names.increasing, by decide, fun filled => absurd empty filled, by simp [empty]⟩
  next filled =>
    have absent := not_mem_commaSeparated names.toList shaped
    refine ⟨names.increasing, absent '\n' (by decide), fun filled => ?_, ?_⟩
    · refine Text.commaParts_commaSeparated names.toList filled fun name member => ⟨?_, ?_⟩
      · exact plain_name name (shaped name member) ',' (by decide)
      · exact plain_name name (shaped name member) ' ' (by decide)
    · constructor
      · intro found
        exact absurd (found.subset (by decide : '(' ∈ "(none)".toList))
          (absent '(' (by decide))
      · exact fun empty => absurd empty filled

theorem ShowsNames.names_eq {names others : Names} {shown : Text} (shows : ShowsNames names shown)
    (shows' : ShowsNames others shown) : names = others := by
  have lists : names.toList = others.toList := by
    by_cases empty : names.toList = []
    next => rw [empty, shows'.none.mp (shows.none.mpr empty)]
    next =>
      have filled : others.toList ≠ [] := fun none => empty (shows.none.mp (shows'.none.mpr none))
      rw [← shows.listed empty, shows'.listed filled]
  obtain ⟨list, increasing⟩ := names
  obtain ⟨list', increasing'⟩ := others
  simpa using lists

variable (scanner : Scanner)

def dumpRows : List Text :=
  scanner.tokens.map dumpRow ++
    [namesRow scanner.context.declared, countRow scanner.diagnostics]

def dumpBody : Text :=
  scanner.dumpRows.flatMap fun row => row ++ ['\n']

theorem dump_eq_body :
    scanner.dump = ("Scan ".toList ++ scanner.file) ++ '\n' :: scanner.dumpBody := by
  have regroup (header tokens declared names diagnostics count : Text) :
      header ++ ['\n'] ++ tokens ++ declared ++ names ++ ['\n'] ++ diagnostics ++ count ++ ['\n'] =
        header ++ '\n' :: (tokens ++
          [declared ++ names, diagnostics ++ count].flatMap fun row => row ++ ['\n']) := by
    simp
  have body : scanner.dumpBody = scanner.tokens.flatMap dumpToken ++
      [namesRow scanner.context.declared, countRow scanner.diagnostics].flatMap
        fun row => row ++ ['\n'] := by
    rw [dumpBody, dumpRows, List.flatMap_append, List.flatMap_map]
    rfl
  rw [body]
  exact regroup _ _ _ _ _ _

theorem flat_dumpRows (flat : '\n' ∉ dumpNames scanner.context.declared) :
    ∀ row ∈ scanner.dumpRows, '\n' ∉ row := by
  have counted (n : Nat) : '\n' ∉ Numeral.nat n := fun inside =>
    absurd (Numeral.mem_nat n '\n' inside) (by decide)
  have labels : '\n' ∉ "Declared: ".toList ∧ '\n' ∉ "Diagnostics: ".toList := by decide
  intro row member
  rcases List.mem_append.mp member with token | table
  · obtain ⟨token, -, rfl⟩ := List.mem_map.mp token
    exact flat_dumpRow _
  · rcases List.mem_pair.mp table with rfl | rfl
    · exact List.not_mem_append labels.1 flat
    · exact List.not_mem_append labels.2 (counted _)

theorem dump_lines (flat : '\n' ∉ dumpNames scanner.context.declared) :
    scanner.dump.lines =
      Text.lines ("Scan ".toList ++ scanner.file) ++ (scanner.dumpRows ++ [[]]) := by
  have body : scanner.dumpBody.lines = scanner.dumpRows ++ [[]] :=
    (Text.lines_eq_append_nil_iff _ _).mpr ⟨scanner.flat_dumpRows flat, rfl⟩
  calc
    scanner.dump.lines =
        Text.lines (("Scan ".toList ++ scanner.file) ++ '\n' :: scanner.dumpBody) :=
      congrArg Text.lines scanner.dump_eq_body
    _ = Text.lines ("Scan ".toList ++ scanner.file) ++ scanner.dumpBody.lines :=
      Text.lines_append_newline _ _
    _ = _ := congrArg _ body

-- Only the name of the file may take several lines.
structure Dumped (scanner : Scanner) : Prop where
  lines : scanner.dump.lines =
    Text.lines ("Scan ".toList ++ scanner.file) ++ (scanner.tokens.map dumpRow ++
      [namesRow scanner.context.declared, countRow scanner.diagnostics] ++ [[]])
  names : ShowsNames scanner.context.declared (dumpNames scanner.context.declared)

theorem Reachable.dumped {scanner : Scanner} (reached : scanner.Reachable) : scanner.Dumped := by
  have names := showsNames scanner.context.declared reached.tabled.shaped
  exact ⟨dump_lines scanner names.flat, names⟩

theorem dump_eq_iff {left right : Scanner} (reached : left.Reachable) (reached' : right.Reachable)
    (sameFile : left.file = right.file) :
    left.dump = right.dump ↔
      left.tokens.map Token.fields = right.tokens.map Token.fields ∧
        left.context.declared = right.context.declared ∧
        left.diagnostics.length = right.diagnostics.length := by
  have names := reached.dumped.names
  have names' := reached'.dumped.names
  constructor
  · intro same
    have lines := congrArg Text.lines same
    rw [dump_lines left names.flat, dump_lines right names'.flat, sameFile] at lines
    have rows := List.append_cancel_right (List.append_cancel_left lines)
    obtain ⟨tokens, tables⟩ := List.append_inj' rows rfl
    simp only [List.cons.injEq, and_true] at tables
    obtain ⟨shown, counted⟩ := tables
    have declared := List.append_cancel_left shown
    have count := List.append_cancel_left counted
    exact ⟨Token.map_eq_of_map_eq dumpRow Token.fields dumpRow_fields _ _ tokens,
      ShowsNames.names_eq names (declared ▸ names'), Numeral.nat_injective count⟩
  · rintro ⟨tokens, declared, count⟩
    have shown := Token.map_eq_of_map_eq Token.fields dumpRow dumpRow_congr _ _ tokens
    have rows : left.dumpRows = right.dumpRows := by
      unfold dumpRows countRow
      rw [shown, declared, count]
    rw [dump_eq_body, dump_eq_body, dumpBody, dumpBody, rows, sameFile]

theorem dump_unambiguous (left right : Scanner) (reached : left.Reachable)
    (reached' : right.Reachable) (sameFile : left.file = right.file) :
    (left.dump = right.dump ↔
        left.tokens.map Token.fields = right.tokens.map Token.fields ∧
          left.context.declared = right.context.declared ∧
          left.diagnostics.length = right.diagnostics.length) ∧
      left.Dumped ∧ right.Dumped ∧
      ∀ value : Text, Text.unquoted? value.quoted = some value ∧
        ∀ c ∈ value.quoted, c ∉ Text.lineBreaks :=
  ⟨dump_eq_iff reached reached' sameFile, reached.dumped, reached'.dumped,
    fun value => ⟨value.unquoted?_quoted, value.quoted_unbroken⟩⟩

def scannedWhole : Scanner :=
  ((fresh "x int x".toList defaultFile none).perform .scan).1

def scannedByWords : Scanner :=
  ((((fresh [] defaultFile none).perform
    (.word (.startingAt { line := 1, column := 1 } "x".toList))).1.perform
    (.word (.startingAt { line := 1, column := 3 } "int".toList))).1.perform
    (.word (.startingAt { line := 1, column := 7 } "x".toList))).1

theorem dump_of_scan_and_of_words :
    scannedWhole.source ≠ scannedByWords.source ∧ scannedWhole.dump = scannedByWords.dump := by
  have reached : scannedWhole.Reachable := .perform _ _ (.fresh _ _ _)
  have reached' : scannedByWords.Reachable :=
    .perform _ _ (.perform _ _ (.perform _ _ (.fresh _ _ _)))
  have fields : scannedWhole.tokens.map Token.fields = scannedByWords.tokens.map Token.fields := by
    decide +kernel
  have declared : scannedWhole.context.declared = scannedByWords.context.declared := by
    decide +kernel
  have count : scannedWhole.diagnostics.length = scannedByWords.diagnostics.length := by
    decide +kernel
  refine ⟨by decide +kernel, ?_⟩
  exact (dump_unambiguous _ _ reached reached' (by decide +kernel)).1.mpr ⟨fields, declared, count⟩

end Scanner

end LineLexer
