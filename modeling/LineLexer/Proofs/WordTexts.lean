import LineLexer.Proofs.SourceText
import Mathlib.Data.List.Forall2

set_option autoImplicit false

namespace LineLexer

theorem isRunChar_of_isBlank (c : Char) (blank : isBlank c = true) : isRunChar c = false := by
  simp [isRunChar, blank]

namespace Word

theorem map_text_place (start : Position) (pieces : List Text) :
    (place start pieces).map Word.text = pieces := by
  induction pieces generalizing start with
  | nil => rfl
  | cons piece rest ih => simp [place, startingAt, ih]

theorem place_append (start : Position) (first second : List Text) :
    place start (first ++ second) =
      place start first ++ place (start.advance first.flatten.length) second := by
  induction first generalizing start with
  | nil => simp [place, Position.advance]
  | cons piece rest ih =>
    simp [place, ih, Position.advance_advance]

end Word

namespace Text

theorem pieces_append_alone (before after : Text) (c : Char) (alone : isRunChar c = false) :
    (before ++ c :: after).pieces = before.pieces ++ [c] :: after.pieces := by
  have first : pieces (c :: after) = [c] :: after.pieces := by
    rw [pieces, ← List.singleton_append, List.splitBy_append (by simp [alone])]
    rfl
  rw [pieces, List.splitBy_append_cons after (by simp [alone])]
  exact congrArg (before.pieces ++ ·) first

theorem pieces_append_blank (before after : Text) (c : Char) (blank : LineLexer.isBlank c = true) :
    (before ++ c :: after).pieces = before.pieces ++ [c] :: after.pieces :=
  pieces_append_alone before after c (isRunChar_of_isBlank c blank)

theorem words_append_blank (line : Text) (number : Int) (c : Char)
    (blank : LineLexer.isBlank c = true) : (line ++ [c]).words number = line.words number := by
  rw [words, pieces_append_blank line [] c blank, Word.place_append, List.filter_append]
  simp [Word.place, Word.startingAt, Text.isBlank, blank, words, pieces]

def wordTexts (line : Text) : List Text :=
  (line.words 1).map Word.text

theorem map_text_words (line : Text) (number : Int) :
    (line.words number).map Word.text = line.pieces.filter (!·.isBlank) := by
  calc (line.words number).map Word.text
    _ = ((Word.place { line := number, column := 1 } line.pieces).map Word.text).filter
        (!·.isBlank) := by rw [List.filter_map]; rfl
    _ = line.pieces.filter (!·.isBlank) := by rw [Word.map_text_place]

theorem map_text_words_eq (line : Text) (number : Int) :
    (line.words number).map Word.text = line.wordTexts := by
  rw [wordTexts, map_text_words, map_text_words]

theorem wordTexts_append_blank (before after : Text) (c : Char)
    (blank : LineLexer.isBlank c = true) :
    (before ++ c :: after).wordTexts = before.wordTexts ++ after.wordTexts := by
  simp only [wordTexts, map_text_words, pieces_append_blank before after c blank,
    List.filter_append]
  simp [Text.isBlank, blank]

theorem isBlank_newline : LineLexer.isBlank '\n' = true := by decide

-- To the words of a source its line breaks are blanks like any other.
theorem map_text_sourceWords (source : Text) :
    source.sourceWords.map Word.text = source.wordTexts := by
  have all (number : Nat) :
      (wordsFrom number source.lines).map Word.text = source.wordTexts := by
    induction source using lines_induction generalizing number with
    | last line flat =>
      rw [lines_of_flat line flat, wordsFrom_cons, List.map_append, map_text_words_eq]
      simp [wordsFrom]
    | above line rest flat ih =>
      rw [lines_append_newline, lines_of_flat line flat, List.singleton_append, wordsFrom_cons,
        List.map_append, map_text_words_eq, ih, wordTexts_append_blank _ _ _ isBlank_newline]
  exact all 1

def Reblanked (left right : Text) : Prop :=
  List.Forall₂ (fun c d => c = d ∨ LineLexer.isBlank c = true ∧ LineLexer.isBlank d = true)
    left right

theorem Reblanked.wordTexts_eq {left right : Text} (reblanked : Reblanked left right) :
    left.wordTexts = right.wordTexts := by
  have extended (before : Text) : (before ++ left).wordTexts = (before ++ right).wordTexts := by
    induction reblanked generalizing before with
    | nil => rfl
    | @cons c d left right related rest ih =>
      rcases related with rfl | ⟨blank, blank'⟩
      · rw [List.append_cons, List.append_cons before c right]
        exact ih (before ++ [c])
      · rw [wordTexts_append_blank _ _ _ blank, wordTexts_append_blank _ _ _ blank']
        exact congrArg (before.wordTexts ++ ·) (ih [])
  exact extended []

theorem wordTexts_of_mem (line text : Text) (member : text ∈ line.wordTexts) :
    text.wordTexts = [text] := by
  rw [wordTexts, map_text_words] at member
  obtain ⟨piece, shown⟩ := List.mem_filter.mp member
  have whole : text.pieces = [text] :=
    List.splitBy_of_isChain (List.ne_nil_of_mem_splitBy piece) (List.isChain_of_mem_splitBy piece)
  rw [wordTexts, map_text_words, whole]
  simpa using shown

theorem isBlank_of_mem_wordTexts (line text : Text) (member : text ∈ line.wordTexts) :
    ∀ c ∈ text, LineLexer.isBlank c = false := by
  obtain ⟨word, found, rfl⟩ := List.mem_map.mp member
  exact line.solid_of_mem_words 1 word found

theorem mem_of_mem_wordTexts (line text : Text) (member : text ∈ line.wordTexts) :
    ∀ c ∈ text, c ∈ line := by
  intro c inside
  obtain ⟨word, found, rfl⟩ := List.mem_map.mp member
  obtain ⟨before, after, whole, -⟩ := line.mem_words_split 1 word found
  rw [whole]
  simp [inside]

def spaced (texts : List Text) : Text :=
  [' '].intercalate texts

theorem mem_intercalate (separator : Text) (parts : List Text) (c : Char)
    (member : c ∈ separator.intercalate parts) : c ∈ separator ∨ ∃ part ∈ parts, c ∈ part := by
  induction parts with
  | nil => simp at member
  | cons part rest ih =>
    cases rest with
    | nil => exact .inr ⟨part, List.mem_singleton_self part, by simpa using member⟩
    | cons next rest =>
      rw [List.intercalate_cons_cons, List.append_assoc, List.mem_append, List.mem_append] at member
      rcases member with here | between | later
      · exact .inr ⟨part, List.mem_cons_self, here⟩
      · exact .inl between
      · rcases ih later with between | ⟨other, found, inside⟩
        · exact .inl between
        · exact .inr ⟨other, List.mem_cons_of_mem part found, inside⟩

theorem wordTexts_spaced (texts : List Text) (solid : ∀ text ∈ texts, text.wordTexts = [text]) :
    (spaced texts).wordTexts = texts := by
  induction texts with
  | nil => rfl
  | cons text rest ih =>
    simp only [List.forall_mem_cons] at solid
    cases rest with
    | nil => simpa [spaced] using solid.1
    | cons next rest =>
      have later := ih solid.2
      simp only [spaced, List.intercalate_cons_cons, List.append_assoc,
        List.singleton_append] at later ⊢
      rw [wordTexts_append_blank _ _ _ (by decide), later, solid.1]
      rfl

theorem mem_of_mem_lines (source line : Text) (member : line ∈ source.lines) :
    ∀ c ∈ line, c ∈ source := by
  induction source using lines_induction with
  | last other flat =>
    rw [lines_of_flat other flat, List.mem_singleton] at member
    simp [member]
  | above other rest flat ih =>
    rw [lines_append_newline, lines_of_flat other flat, List.singleton_append] at member
    intro c inside
    rcases List.mem_cons.mp member with rfl | below
    · simp [inside]
    · simp [ih below c inside]

def wordRows (source : Text) : List (List Text) :=
  (source.lines.map wordTexts).filter (!·.isEmpty)

def respaced (source : Text) : Text :=
  ['\n'].intercalate (source.lines.map fun line => spaced line.wordTexts)

theorem mem_respaced (source : Text) (c : Char) (member : c ∈ source.respaced) :
    c = '\n' ∨ c = ' ' ∨ c ∈ source := by
  rcases mem_intercalate _ _ c member with between | ⟨line', found, inside⟩
  · exact .inl (List.mem_singleton.mp between)
  · obtain ⟨line, standing, rfl⟩ := List.mem_map.mp found
    rcases mem_intercalate _ _ c inside with space | ⟨text, shown, here⟩
    · exact .inr (.inl (List.mem_singleton.mp space))
    · exact .inr (.inr (source.mem_of_mem_lines line standing c
        (line.mem_of_mem_wordTexts text shown c here)))

theorem lines_respaced (source : Text) :
    source.respaced.lines = source.lines.map fun line => spaced line.wordTexts := by
  refine List.splitOn_intercalate '\n' ?_ (by simpa using source.lines_ne_nil)
  intro line' found broken
  obtain ⟨line, -, rfl⟩ := List.mem_map.mp found
  rcases mem_intercalate _ _ '\n' broken with space | ⟨text, shown, here⟩
  · simp at space
  · have solid := line.isBlank_of_mem_wordTexts text shown '\n' here
    simp [isBlank_newline] at solid

theorem wordRows_respaced (source : Text) : source.respaced.wordRows = source.wordRows := by
  have read (line : Text) : (spaced line.wordTexts).wordTexts = line.wordTexts :=
    wordTexts_spaced _ fun text member => wordTexts_of_mem line text member
  rw [wordRows, lines_respaced, List.map_map]
  simp only [Function.comp_def, read]
  rfl

end Text

end LineLexer
