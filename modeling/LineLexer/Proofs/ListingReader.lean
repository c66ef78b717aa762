import LineLexer.Listing
import LineLexer.Proofs.LineEndings
import LineLexer.Proofs.SpanFidelity

set_option autoImplicit false

namespace LineLexer

namespace Text

theorem intercalate_newline (rows : List Text) :
    ['\n'].intercalate (rows ++ [[]]) = rows.flatMap fun row => row ++ ['\n'] := by
  induction rows with
  | nil => rfl
  | cons row rest ih =>
    rw [List.flatMap_cons, ← ih]
    cases rest <;> simp [List.intercalate_cons_cons]

theorem lines_eq_append_nil_iff (text : Text) (rows : List Text) :
    text.lines = rows ++ [[]] ↔
      (∀ row ∈ rows, '\n' ∉ row) ∧ text = rows.flatMap fun row => row ++ ['\n'] := by
  constructor
  · intro split
    constructor
    · intro row member
      have standing : row ∈ text.lines := split ▸ List.mem_append_left [[]] member
      exact not_mem_of_mem_splitOn '\n' text row standing
    · rw [← intercalate_newline, ← split]
      exact (List.intercalate_splitOn '\n').symm
  · rintro ⟨flat, rfl⟩
    rw [← intercalate_newline]
    refine List.splitOn_intercalate '\n' ?_ (by simp)
    intro row member
    rcases List.mem_append.mp member with earlier | last
    · exact flat row earlier
    · simp [List.mem_singleton.mp last]

end Text

namespace Kind

def ofLabel? (label : Text) : Option Kind :=
  all.find? fun kind => kind.label == label

theorem ofLabel?_eq_some_iff (label : Text) (kind : Kind) :
    ofLabel? label = some kind ↔ kind.label = label := by
  constructor
  · intro found
    simpa using List.find?_some found
  · rintro rfl
    cases kind <;> decide

theorem not_mem_label (kind : Kind) (c : Char) (blank : isBlank c = true) : c ∉ kind.label := by
  have solid : kind.label.all (fun c => !isBlank c) = true := by cases kind <;> decide
  intro member
  simpa [blank] using List.all_eq_true.mp solid c member

end Kind

def Token.listed (token : Token) : Text × Kind :=
  (token.value, token.kind)

namespace Listing

def line (pair : Text × Kind) : Text :=
  [' '].intercalate [['<'], pair.1 ++ [','], pair.2.label, ['>']]

theorem text_eq_lines (tokens : List Token) :
    text tokens = ((tokens.map Token.listed).map line).flatMap fun row => row ++ ['\n'] := by
  rw [List.map_map, List.flatMap_map]
  apply List.flatMap_congr
  intro token _
  simp [textLine, line, Token.listed]

theorem flat_line_iff (pair : Text × Kind) : '\n' ∉ line pair ↔ '\n' ∉ pair.1 := by
  simp [line, pair.2.not_mem_label '\n' (by decide)]

theorem splitOn_line (pair : Text × Kind) (spaceless : ' ' ∉ pair.1) :
    (line pair).splitOn ' ' = [['<'], pair.1 ++ [','], pair.2.label, ['>']] := by
  refine List.splitOn_intercalate ' ' ?_ (by simp)
  simp [spaceless, pair.2.not_mem_label ' ' (by decide)]

def readLine (row : Text) : Option (Text × Kind) :=
  match row.splitOn ' ' with
  | [opening, valued, label, closing] =>
    -- Only the last comma of its field is a mark; those before it are part of the value.
    if opening = ['<'] ∧ valued.getLast? = some ',' ∧ closing = ['>'] then
      (Kind.ofLabel? label).map fun kind => (valued.dropLast, kind)
    else none
  | _ => none

theorem readLine_eq_some_iff (row : Text) (pair : Text × Kind) :
    readLine row = some pair ↔ ' ' ∉ pair.1 ∧ row = line pair := by
  constructor
  · intro found
    unfold readLine at found
    split at found
    next opening valued label closing fields =>
      split at found
      next marks =>
        obtain ⟨rfl, comma, rfl⟩ := marks
        obtain ⟨value, rfl⟩ := List.getLast?_eq_some_iff.mp comma
        obtain ⟨kind, labelled, rfl⟩ := Option.map_eq_some_iff.mp found
        obtain rfl := (Kind.ofLabel?_eq_some_iff label kind).mp labelled
        have spaceless := Text.not_mem_of_mem_splitOn ' ' row (value ++ [',']) (by simp [fields])
        have whole : [' '].intercalate (row.splitOn ' ') = row := List.intercalate_splitOn ' '
        rw [fields] at whole
        refine ⟨by simpa using spaceless, ?_⟩
        rw [← whole, line, List.dropLast_concat]
      next => contradiction
    next => contradiction
  · rintro ⟨spaceless, rfl⟩
    have labelled := (Kind.ofLabel?_eq_some_iff pair.2.label pair.2).mpr rfl
    simp [readLine, splitOn_line pair spaceless, labelled]

def readLines : List Text → Option (List (Text × Kind))
  | [] => none
  | [row] => if row = [] then some [] else none
  | row :: rest => do
    let pair ← readLine row
    let pairs ← readLines rest
    return pair :: pairs

theorem readLines_eq_some_iff (rows : List Text) (pairs : List (Text × Kind)) :
    readLines rows = some pairs ↔
      (∀ pair ∈ pairs, ' ' ∉ pair.1) ∧ rows = pairs.map line ++ [[]] := by
  fun_induction readLines rows generalizing pairs with
  | case1 => simp
  | case2 => cases pairs <;> simp
  | case3 row filled => cases pairs <;> simp [filled]
  | case4 row rest more ih =>
    simp only [Option.bind_eq_bind, Option.bind_eq_some_iff, Option.pure_def, Option.some.injEq,
      readLine_eq_some_iff, ih]
    constructor
    · rintro ⟨pair, ⟨spaceless, rfl⟩, pairs, ⟨later, rfl⟩, rfl⟩
      exact ⟨List.forall_mem_cons.mpr ⟨spaceless, later⟩, rfl⟩
    · rintro ⟨spaceless, whole⟩
      cases pairs with
      | nil => exact absurd (List.cons.inj whole).2 more
      | cons pair pairs =>
        obtain ⟨rfl, rfl⟩ := List.cons.inj whole
        obtain ⟨here, later⟩ := List.forall_mem_cons.mp spaceless
        exact ⟨pair, ⟨here, rfl⟩, pairs, ⟨later, rfl⟩, rfl⟩

def read (listing : Text) : Option (List (Text × Kind)) :=
  readLines listing.lines

theorem read_eq_some_iff (listing : Text) (pairs : List (Text × Kind)) :
    read listing = some pairs ↔
      (∀ pair ∈ pairs, ' ' ∉ pair.1 ∧ '\n' ∉ pair.1) ∧
        listing = (pairs.map line).flatMap fun row => row ++ ['\n'] := by
  rw [read, readLines_eq_some_iff, Text.lines_eq_append_nil_iff]
  simp only [List.forall_mem_map, flat_line_iff, forall_and, and_assoc]

theorem read_text (tokens : List Token)
    (solid : ∀ token ∈ tokens, ∀ c ∈ token.value, isBlank c = false) :
    read (text tokens) = some (tokens.map Token.listed) := by
  rw [read_eq_some_iff, List.forall_mem_map]
  refine ⟨?_, text_eq_lines tokens⟩
  intro token member
  have apart (c : Char) (blank : isBlank c = true) : c ∉ token.value := by
    intro inside
    simp [solid token member c inside] at blank
  exact ⟨apart ' ' (by decide), apart '\n' (by decide)⟩

theorem text_eq_iff_listed_eq (left right : List Token)
    (solidLeft : ∀ token ∈ left, ∀ c ∈ token.value, isBlank c = false)
    (solidRight : ∀ token ∈ right, ∀ c ∈ token.value, isBlank c = false) :
    text left = text right ↔ left.map Token.listed = right.map Token.listed := by
  constructor
  · intro same
    apply Option.some.inj
    rw [← read_text left solidLeft, ← read_text right solidRight, same]
  · intro same
    rw [text_eq_lines, text_eq_lines, same]

end Listing

-- A literal is put together from words, so it has no blank in it either.
theorem Scanner.solid_of_scan (source file : Text) (sink : Option Sink) (nonempty : source ≠ [])
    (nulFree : '\x00' ∉ source) :
    ∀ token ∈ (fresh source file sink).scan.1.tokens, ∀ c ∈ token.value, isBlank c = false := by
  have start : Spelled [] [] none := by constructor <;> simp
  obtain ⟨read, begun, -, spelled⟩ := scan_accounted Spelled source file sink nonempty nulFree
    start fun _ _ _ _ token? literal' accounted spelled follows placed =>
      spelled.step accounted follows token? literal' placed
  have solid (word : Word) (member : word ∈ read) : ∀ c ∈ word.text, isBlank c = false := by
    obtain ⟨index, line, -, found⟩ := source.mem_sourceWords_line word (begun.mem member)
    exact line.solid_of_mem_words _ word found
  intro token member c inside
  by_cases string : token.kind = .string
  next =>
    rw [spelled.strings token member string, spelling, List.mem_flatMap] at inside
    obtain ⟨word, found, here⟩ := inside
    split at here
    next => exact solid word found c here
    next => simp at here
  next =>
    obtain ⟨word, found, -, value⟩ := spelled.own token member string
    exact solid word found c (value ▸ inside)

theorem Text.solid_tokens (source : Text) (nonempty : source ≠ []) (nulFree : '\x00' ∉ source) :
    ∃ tokens, source.tokens = .ok tokens ∧
      ∀ token ∈ tokens, ∀ c ∈ token.value, LineLexer.isBlank c = false := by
  obtain ⟨scanner, found⟩ := (source.exists_scanned_iff defaultFile).mpr ⟨nonempty, nulFree⟩
  refine ⟨scanner.tokens, by rw [tokens, found]; rfl, ?_⟩
  have scanned := (source.scanned_eq_ok_iff defaultFile scanner).mp found
  have solid := Scanner.solid_of_scan source defaultFile none nonempty nulFree
  rwa [scanned] at solid

namespace Listing

theorem text_of_scan_unambiguous :
    (∀ source : Text, source ≠ [] → '\x00' ∉ source →
      ∃ tokens, source.tokens = .ok tokens ∧
        (∀ token ∈ tokens, ∀ c ∈ token.value, isBlank c = false) ∧
        read (text tokens) = some (tokens.map Token.listed)) ∧
      (∀ source other : Text, source ≠ [] → '\x00' ∉ source → other ≠ [] → '\x00' ∉ other →
        ∃ tokens others, source.tokens = .ok tokens ∧ other.tokens = .ok others ∧
          (text tokens = text others ↔
            tokens.map Token.listed = others.map Token.listed)) ∧
      (∃ (source : Text) (tokens : List Token), source.tokens = .ok tokens ∧
        ∃ token ∈ tokens, '<' ∈ token.value ∧ ',' ∈ token.value ∧ '>' ∈ token.value) ∧
      ∃ tokens others : List Token, text tokens = text others ∧
        tokens.map Token.listed ≠ others.map Token.listed := by
  refine ⟨?_, ?_, ?_, ?_⟩
  · intro source nonempty nulFree
    obtain ⟨tokens, found, solid⟩ := source.solid_tokens nonempty nulFree
    exact ⟨tokens, found, solid, read_text tokens solid⟩
  · intro source other nonempty nulFree otherNonempty otherNulFree
    obtain ⟨tokens, found, solid⟩ := source.solid_tokens nonempty nulFree
    obtain ⟨others, otherFound, otherSolid⟩ := other.solid_tokens otherNonempty otherNulFree
    exact ⟨tokens, others, found, otherFound,
      text_eq_iff_listed_eq tokens others solid otherSolid⟩
  · let token : Token :=
      { value := "\"<a,Number>\"".toList, kind := .string,
        span := { start := { line := 1, column := 1 }, stop := { line := 1, column := 13 } } }
    exact ⟨"\"<a,Number>\"".toList, [token], by decide +kernel, token, by simp, by decide⟩
  · let token (value : Text) : Token :=
      { value, kind := .number,
        span := { start := { line := 1, column := 1 }, stop := { line := 1, column := 2 } } }
    exact ⟨[token "1, Number >\n< 2".toList], [token ['1'], token ['2']], by decide, by decide⟩

theorem text_of_forged_literal_read_back :
    let forged : Text := "\"1, Number >\n< 2\"".toList
    let numbers : Text := "1 2".toList
    (∃ tokens, forged.tokens = .ok tokens ∧
      read (text tokens) = some [("\"1,Number><2\"".toList, .string)]) ∧
      ∃ tokens others, forged.tokens = .ok tokens ∧ numbers.tokens = .ok others ∧
        (text tokens = text others ↔ tokens.map Token.listed = others.map Token.listed) := by
  constructor
  · obtain ⟨tokens, found, -, back⟩ :=
      text_of_scan_unambiguous.1 "\"1, Number >\n< 2\"".toList (by decide) (by decide)
    have scanned : Text.tokens "\"1, Number >\n< 2\"".toList =
        .ok [⟨"\"1,Number><2\"".toList, .string, ⟨⟨1, 1⟩, ⟨2, 5⟩⟩⟩] := by
      decide +kernel
    obtain rfl := Except.ok.inj (found.symm.trans scanned)
    exact ⟨_, found, back⟩
  · exact text_of_scan_unambiguous.2.1 _ _ (by decide) (by decide) (by decide) (by decide)

end Listing

end LineLexer
