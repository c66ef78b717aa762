import LineLexer.Proofs.SourceWords
import Mathlib.Data.List.SplitBy

set_option autoImplicit false

namespace LineLexer

namespace Span

def contains (span : Span) (position : Position) : Bool :=
  span.start ≤ position ∧ position < span.stop

def liesIn (inner outer : Span) : Bool :=
  outer.start ≤ inner.start ∧ inner.stop ≤ outer.stop

theorem contains_iff (span : Span) (position : Position) :
    span.contains position = true ↔ span.start ≤ position ∧ position < span.stop := by
  simp [contains]

theorem liesIn_iff (inner outer : Span) :
    inner.liesIn outer = true ↔ outer.start ≤ inner.start ∧ inner.stop ≤ outer.stop := by
  simp [liesIn]

end Span

def Position.next (position : Position) (c : Char) : Position :=
  if c = '\n' then { line := position.line + 1, column := 1 } else position.advance 1

theorem Position.next_of_ne (position : Position) (c : Char) (inLine : '\n' ≠ c) :
    position.next c = position.advance 1 :=
  if_neg (Ne.symm inLine)

theorem Position.advance_advance (position : Position) (first second : Nat) :
    (position.advance first).advance second = position.advance (first + second) := by
  simp only [Position.advance, Position.mk.injEq, true_and]
  omega

theorem Position.advance_first (number : Int) (width : Nat) :
    Position.advance { line := number, column := 1 } width =
      { line := number, column := width + 1 } := by
  simp only [Position.advance, Position.mk.injEq, true_and]
  omega

namespace Text

def locate (start : Position) : Text → List (Position × Char)
  | [] => []
  | c :: rest => (start, c) :: locate (start.next c) rest

def located (source : Text) : List (Position × Char) :=
  source.locate { line := 1, column := 1 }

theorem map_snd_locate (start : Position) (text : Text) :
    (text.locate start).map Prod.snd = text := by
  induction text generalizing start with
  | nil => rfl
  | cons c rest ih => simp [locate, ih]

theorem mem_of_mem_locate (start : Position) (text : Text) (located : Position × Char)
    (member : located ∈ text.locate start) : located.2 ∈ text := by
  rw [← map_snd_locate start text]
  exact List.mem_map_of_mem member

theorem locate_append (start : Position) (line rest : Text) (flat : '\n' ∉ line) :
    (line ++ rest).locate start = line.locate start ++ rest.locate (start.advance line.length) := by
  induction line generalizing start with
  | nil => simp [locate, Position.advance]
  | cons c line ih =>
    obtain ⟨inLine, flat⟩ : '\n' ≠ c ∧ '\n' ∉ line := by simpa using flat
    have later := ih (start.advance 1) flat
    rw [Position.advance_advance, Nat.add_comm] at later
    simp [locate, start.next_of_ne c inLine, later]

theorem mem_locate (start : Position) (line : Text) (flat : '\n' ∉ line) (position : Position)
    (c : Char) (member : (position, c) ∈ line.locate start) :
    start ≤ position ∧ position < start.advance line.length := by
  induction line generalizing start with
  | nil => simp [locate] at member
  | cons head line ih =>
    obtain ⟨inLine, flat⟩ : '\n' ≠ head ∧ '\n' ∉ line := by simpa using flat
    simp only [Position.le_iff, Position.lt_iff, Position.advance, List.length_cons]
    rcases List.mem_cons.mp member with here | later
    · obtain ⟨rfl, -⟩ := Prod.mk.inj here
      omega
    · rw [start.next_of_ne head inLine] at later
      have bounds := ih _ flat later
      simp only [Position.le_iff, Position.lt_iff, Position.advance] at bounds
      omega

theorem isRunChar_of_isChain (c : Char) (rest : Text) (nonempty : rest ≠ [])
    (chain : (c :: rest).IsChain fun left right => isRunChar left && isRunChar right) :
    ∀ other ∈ c :: rest, isRunChar other = true := by
  induction rest generalizing c with
  | nil => contradiction
  | cons next rest ih =>
    obtain ⟨both, chain⟩ := List.isChain_cons_cons.mp chain
    obtain ⟨first, second⟩ := (Bool.and_eq_true _ _).mp both
    cases rest with
    | nil => simp [first, second]
    | cons after rest =>
      intro other member
      rcases List.mem_cons.mp member with rfl | later
      · exact first
      · exact ih next (by simp) chain other later

theorem isBlank_of_isRunChar (c : Char) (run : isRunChar c = true) :
    LineLexer.isBlank c = false := by
  simp only [isRunChar, Bool.and_eq_true, Bool.not_eq_true'] at run
  exact run.1

theorem run_or_alone_of_mem_pieces (line piece : Text) (member : piece ∈ line.pieces) :
    (∀ c ∈ piece, isRunChar c = true) ∨ ∃ c, piece = [c] ∧ isRunChar c = false := by
  have chain := List.isChain_of_mem_splitBy member
  match piece with
  | [] => simp
  | [c] => cases run : isRunChar c <;> simp [run]
  | c :: next :: rest => exact .inl (isRunChar_of_isChain c (next :: rest) (by simp) chain)

theorem solid_of_mem_pieces (line piece : Text) (member : piece ∈ line.pieces)
    (shown : piece.isBlank = false) : ∀ c ∈ piece, LineLexer.isBlank c = false := by
  rcases run_or_alone_of_mem_pieces line piece member with within | ⟨c, rfl, -⟩
  · intro c inside
    exact isBlank_of_isRunChar c (within c inside)
  · simpa [Text.isBlank] using shown

end Text

def Word.located (word : Word) : List (Position × Char) :=
  word.text.locate word.span.start

namespace Text

def isShown (located : Position × Char) : Bool :=
  !LineLexer.isBlank located.2

theorem filter_locate_blank (start : Position) (text : Text) (blank : text.isBlank = true) :
    (text.locate start).filter isShown = [] := by
  have all : ∀ c ∈ text, LineLexer.isBlank c = true := by simpa [Text.isBlank] using blank
  rw [List.filter_eq_nil_iff]
  intro located member
  simp [isShown, all located.2 (mem_of_mem_locate start text located member)]

theorem filter_locate_solid (start : Position) (text : Text)
    (solid : ∀ c ∈ text, LineLexer.isBlank c = false) :
    (text.locate start).filter isShown = text.locate start := by
  rw [List.filter_eq_self]
  intro located member
  simp [isShown, solid located.2 (mem_of_mem_locate start text located member)]

theorem filter_locate_place (start : Position) (pieces : List Text)
    (flat : ∀ piece ∈ pieces, '\n' ∉ piece)
    (solid : ∀ piece ∈ pieces, piece.isBlank = false → ∀ c ∈ piece, LineLexer.isBlank c = false) :
    (locate start pieces.flatten).filter isShown =
      ((Word.place start pieces).filter fun word => !word.text.isBlank).flatMap Word.located := by
  induction pieces generalizing start with
  | nil => simp [locate, Word.place]
  | cons piece rest ih =>
    simp only [List.forall_mem_cons] at flat solid
    have later := ih (start.advance piece.length) flat.2 solid.2
    rw [List.flatten_cons, locate_append start _ _ flat.1, List.filter_append, later, Word.place]
    cases shown : piece.isBlank with
    | true => simp [Word.startingAt, shown, filter_locate_blank start piece shown]
    | false =>
      simp [Word.startingAt, shown, Word.located, filter_locate_solid start piece (solid.1 shown)]

theorem filter_locate_line (number : Int) (line : Text) (flat : '\n' ∉ line) :
    (line.locate { line := number, column := 1 }).filter isShown =
      (line.words number).flatMap Word.located := by
  have whole : line.pieces.flatten = line := List.flatten_splitBy _ line
  have placed := filter_locate_place { line := number, column := 1 } line.pieces
    (fun piece member broken => flat (whole ▸ List.mem_flatten_of_mem member broken))
    (fun piece member => solid_of_mem_pieces line piece member)
  rw [whole] at placed
  exact placed

-- Line by line, from the last one up.
theorem lines_induction {motive : Text → Prop}
    (last : ∀ line, '\n' ∉ line → motive line)
    (above : ∀ line rest, '\n' ∉ line → motive rest → motive (line ++ '\n' :: rest))
    (source : Text) : motive source := by
  have extended (line : Text) (flat : '\n' ∉ line) : motive (line ++ source) := by
    induction source generalizing line with
    | nil => simpa using last line flat
    | cons c rest ih =>
      by_cases broken : c = '\n'
      next =>
        rw [broken]
        exact above line rest flat (ih [] (by simp))
      next =>
        rw [List.append_cons]
        apply ih
        simpa [flat] using Ne.symm broken
  exact extended [] (by simp)

theorem lines_of_flat (line : Text) (flat : '\n' ∉ line) : line.lines = [line] :=
  List.splitOn_eq_singleton flat

theorem not_mem_of_mem_splitOn (mark : Char) (text part : Text)
    (member : part ∈ text.splitOn mark) : mark ∉ part := by
  induction text generalizing part with
  | nil =>
    obtain rfl := List.mem_singleton.mp member
    simp
  | cons c rest ih =>
    rw [List.splitOn_cons_eq_if_modifyHead] at member
    split at member
    next =>
      rcases List.mem_cons.mp member with rfl | later
      · simp
      · exact ih part later
    next other =>
      obtain ⟨first, parts, found⟩ := List.exists_cons_of_ne_nil (List.splitOn_ne_nil mark rest)
      rw [found, List.modifyHead_cons] at member
      simp only [found, List.forall_mem_cons] at ih
      rcases List.mem_cons.mp member with rfl | later
      · simpa [ih.1] using fun same => other (by simp [same])
      · exact ih.2 part later

theorem filter_locate_lines (number : Nat) (source : Text) :
    (source.locate { line := number, column := 1 }).filter isShown =
      (wordsFrom number source.lines).flatMap Word.located := by
  induction source using lines_induction generalizing number with
  | last line flat =>
    rw [lines_of_flat line flat, wordsFrom_cons, filter_locate_line number line flat]
    simp [wordsFrom]
  | above line rest flat ih =>
    have next (position : Position) (same : position.line = number) :
        position.next '\n' = { line := (number + 1 : Nat), column := 1 } := by
      simp [Position.next, same]
    have hidden : LineLexer.isBlank '\n' = true := by decide
    rw [lines_append_newline, lines_of_flat line flat, List.singleton_append, wordsFrom_cons,
      locate_append _ _ _ flat, List.filter_append, filter_locate_line number line flat,
      List.flatMap_append, ← ih (number + 1), locate,
      next (Position.advance _ _) rfl, List.filter_cons]
    simp [isShown, hidden]

theorem filter_located (source : Text) :
    source.located.filter isShown = source.sourceWords.flatMap Word.located :=
  filter_locate_lines 1 source

end Text

namespace Word

theorem exists_pieces_of_mem_place (start : Position) (pieces : List Text) (word : Word)
    (member : word ∈ place start pieces) :
    ∃ first last, pieces = first ++ word.text :: last ∧
      word = startingAt (start.advance first.flatten.length) word.text := by
  induction pieces generalizing start with
  | nil => simp [place] at member
  | cons piece rest ih =>
    rcases List.mem_cons.mp member with rfl | later
    · exact ⟨[], rest, rfl, by simp [startingAt, Position.advance]⟩
    · obtain ⟨first, last, split, standing⟩ := ih _ later
      refine ⟨piece :: first, last, by simp [← split], ?_⟩
      rwa [Position.advance_advance, ← List.length_append] at standing

theorem text_mem_of_mem_place (start : Position) (pieces : List Text) (word : Word)
    (member : word ∈ place start pieces) : word.text ∈ pieces := by
  obtain ⟨first, last, rfl, -⟩ := exists_pieces_of_mem_place start pieces word member
  simp

theorem mem_place_split (start : Position) (pieces : List Text) (word : Word)
    (member : word ∈ place start pieces) :
    ∃ before after, pieces.flatten = before ++ word.text ++ after ∧
      word.span.start = start.advance before.length := by
  obtain ⟨first, last, rfl, standing⟩ := exists_pieces_of_mem_place start pieces word member
  exact ⟨first.flatten, last.flatten, by simp, congrArg (·.span.start) standing⟩

section Ordered

variable {words : List Word} {first second : Word}
  (ordered : words.Pairwise fun first second => first.span.stop ≤ second.span.start)
  (left : first ∈ words) (right : second ∈ words)

include ordered left right

theorem apart_of_pairwise :
    first = second ∨ first.span.stop ≤ second.span.start ∨ second.span.stop ≤ first.span.start := by
  obtain ⟨before, after, rfl⟩ := List.append_of_mem left
  obtain ⟨-, following, across⟩ := List.pairwise_append.mp ordered
  rcases List.mem_append.mp right with earlier | later
  · exact .inr (.inr (across second earlier first List.mem_cons_self))
  · rcases List.mem_cons.mp later with same | later
    · exact .inl same.symm
    · exact .inr (.inl ((List.pairwise_cons.mp following).1 second later))

theorem eq_of_contains (position : Position) (inFirst : first.span.contains position = true)
    (inSecond : second.span.contains position = true) : first = second := by
  rw [Span.contains_iff] at inFirst inSecond
  rcases apart_of_pairwise ordered left right with same | before | behind
  · exact same
  · exact absurd (lt_of_lt_of_le inFirst.2 (le_trans before inSecond.1)) (lt_irrefl _)
  · exact absurd (lt_of_lt_of_le inSecond.2 (le_trans behind inFirst.1)) (lt_irrefl _)

end Ordered

end Word

namespace Text

theorem mem_words_split (line : Text) (number : Int) (word : Word)
    (member : word ∈ line.words number) :
    ∃ before after, line = before ++ word.text ++ after ∧
      word.span.start = { line := number, column := before.length + 1 } := by
  obtain ⟨placed, -⟩ := List.mem_filter.mp member
  obtain ⟨before, after, same, begins⟩ := Word.mem_place_split _ _ word placed
  refine ⟨before, after, ?_, ?_⟩
  · rw [← same]
    exact (List.flatten_splitBy _ line).symm
  · rw [begins, Position.advance_first]

theorem solid_of_mem_words (line : Text) (number : Int) (word : Word)
    (member : word ∈ line.words number) : ∀ c ∈ word.text, LineLexer.isBlank c = false := by
  obtain ⟨placed, shown⟩ := List.mem_filter.mp member
  apply solid_of_mem_pieces line word.text (Word.text_mem_of_mem_place _ _ word placed)
  simpa using shown

theorem mem_sourceWords_line (source : Text) (word : Word) (member : word ∈ source.sourceWords) :
    ∃ (index : Nat) (line : Text), source.lines[index]? = some line ∧
      word ∈ line.words ((index + 1 : Nat) : Int) := by
  obtain ⟨⟨line, number⟩, numbered, found⟩ := List.mem_flatMap.mp member
  obtain ⟨after, here⟩ := List.mk_mem_zipIdx_iff_le_and_getElem?_sub.mp numbered
  refine ⟨number - 1, line, here, ?_⟩
  rw [Nat.sub_add_cancel after]
  exact found

theorem mem_located_word (source : Text) (word : Word) (member : word ∈ source.sourceWords)
    (position : Position) (c : Char) (here : (position, c) ∈ word.located) :
    word.span.contains position = true := by
  obtain ⟨index, line, -, found⟩ := source.mem_sourceWords_line word member
  obtain ⟨-, -, -, stop⟩ := line.mem_words _ word found
  have flat : '\n' ∉ word.text := by
    intro broken
    have shown := line.solid_of_mem_words _ word found '\n' broken
    revert shown
    decide
  rw [Span.contains_iff, stop]
  exact mem_locate word.span.start word.text flat position c here

-- The end of a line counts as a place on it.
def HasPosition (source : Text) (position : Position) : Prop :=
  ∃ line, 1 ≤ position.line ∧ source.lines[(position.line - 1).toNat]? = some line ∧
    1 ≤ position.column ∧ position.column ≤ line.length + 1

def Shows (source : Text) (span : Span) (value : Text) : Prop :=
  span.start.line = span.stop.line ∧ ∃ line,
    source.lines[(span.start.line - 1).toNat]? = some line ∧
      (line.drop (span.start.column - 1).toNat).take
        (span.stop.column - span.start.column).toNat = value

theorem positions_of_mem (source : Text) (word : Word) (member : word ∈ source.sourceWords) :
    source.HasPosition word.span.start ∧ source.HasPosition word.span.stop ∧
      source.Shows word.span word.text := by
  obtain ⟨index, line, here, found⟩ := source.mem_sourceWords_line word member
  obtain ⟨-, -, -, stop⟩ := line.mem_words _ word found
  obtain ⟨before, after, whole, start⟩ := line.mem_words_split _ word found
  have width : line.length = before.length + word.text.length + after.length := by
    simp [whole, Nat.add_assoc]
  have standing : source.lines[(((index + 1 : Nat) : Int) - 1).toNat]? = some line := by
    rw [← here]
    congr 1
    omega
  rw [start] at stop
  simp only [HasPosition, Shows, start, stop, Position.advance, standing]
  refine ⟨⟨line, ?_, rfl, ?_, ?_⟩, ⟨line, ?_, rfl, ?_, ?_⟩, trivial, line, rfl, ?_⟩
  any_goals omega
  have skipped : ((before.length : Int) + 1 - 1).toNat = before.length := by omega
  have taken : ((before.length : Int) + 1 + word.text.length - (before.length + 1)).toNat =
      word.text.length := by omega
  rw [skipped, taken, whole]
  simp

variable (source : Text)

theorem sourceWords_apart (first second : Word) (left : first ∈ source.sourceWords)
    (right : second ∈ source.sourceWords) :
    first = second ∨ first.span.stop ≤ second.span.start ∨ second.span.stop ≤ first.span.start :=
  Word.apart_of_pairwise source.sourceWords_pairwise left right

theorem eq_of_contains (first second : Word) (left : first ∈ source.sourceWords)
    (right : second ∈ source.sourceWords) (position : Position)
    (inFirst : first.span.contains position = true)
    (inSecond : second.span.contains position = true) : first = second :=
  Word.eq_of_contains source.sourceWords_pairwise left right position inFirst inSecond

theorem contains_iff_liesIn (span : Span) (first last word : Word)
    (begins : first ∈ source.sourceWords) (start : span.start = first.span.start)
    (ends : last ∈ source.sourceWords) (stop : span.stop = last.span.stop)
    (member : word ∈ source.sourceWords) (position : Position)
    (here : word.span.contains position = true) :
    span.contains position = true ↔ word.span.liesIn span = true := by
  rw [Span.contains_iff] at here
  rw [Span.contains_iff, Span.liesIn_iff, start, stop]
  have widths := source.start_lt_stop_of_mem_sourceWords
  constructor
  · rintro ⟨after, before⟩
    constructor
    · rcases source.sourceWords_apart first word begins member with same | earlier | later
      · rw [same]
      · exact le_of_lt (lt_of_lt_of_le (widths first begins) earlier)
      · exact absurd (lt_of_lt_of_le here.2 (le_trans later after)) (lt_irrefl _)
    · rcases source.sourceWords_apart word last member ends with same | earlier | later
      · rw [same]
      · exact le_of_lt (lt_of_le_of_lt earlier (widths last ends))
      · exact absurd (lt_of_le_of_lt (le_trans later here.1) before) (lt_irrefl _)
  · rintro ⟨after, before⟩
    exact ⟨le_trans after here.1, lt_of_lt_of_le here.2 before⟩

theorem filter_located_words (keep : Position → Bool) (whole : Word → Bool)
    (chosen : ∀ word ∈ source.sourceWords, ∀ position, word.span.contains position = true →
      keep position = whole word) :
    ((source.located.filter fun located => keep located.1).map Prod.snd).filter
        (fun c => !LineLexer.isBlank c) =
      source.sourceWords.flatMap fun word => if whole word then word.text else [] := by
  have shown : (fun c => !LineLexer.isBlank c) ∘ Prod.snd = isShown := rfl
  rw [List.filter_map, shown, List.filter_filter]
  simp only [Bool.and_comm (isShown _)]
  rw [← List.filter_filter, filter_located, List.filter_flatMap, List.map_flatMap]
  apply List.flatMap_congr
  intro word member
  have every : ∀ located ∈ word.located, keep located.1 = whole word := by
    intro located here
    apply chosen word member
    exact source.mem_located_word word member located.1 located.2 here
  cases decision : whole word with
  | true =>
    rw [List.filter_eq_self.mpr fun located here => (every located here).trans decision]
    exact map_snd_locate word.span.start word.text
  | false =>
    rw [List.filter_eq_nil_iff.mpr fun located here => by simp [every located here, decision]]
    rfl

theorem takeWhile_bne_append (mark : Char) (text rest : Text) (new : mark ∉ text) :
    (text ++ rest).takeWhile (· != mark) = text ++ rest.takeWhile (· != mark) := by
  have all : ∀ c ∈ text, (c != mark) = true := by
    intro c member
    have different : c ≠ mark := fun same => new (same ▸ member)
    simpa using different
  exact List.takeWhile_append_of_pos all

end Text

theorem Position.after_of_flat (line : Text) (flat : '\n' ∉ line) :
    after line = { line := 1, column := line.length + 1 } := by
  have whole := Text.takeWhile_bne_append '\n' line.reverse [] (by simpa using flat)
  have last : line.afterLast '\n' = line := by
    rw [List.append_nil] at whole
    simp [Text.afterLast, whole]
  simp [after, last, List.count_eq_zero_of_not_mem flat]

theorem Position.after_append_newline (line rest : Text) (flat : '\n' ∉ line) :
    after (line ++ '\n' :: rest) =
      { line := (after rest).line + 1, column := (after rest).column } := by
  simp [after, Text.afterLast_append, List.count_eq_zero_of_not_mem flat]

namespace Text

def FirstNul (source : Text) (position : Position) : Prop :=
  ∃ above front back below, source.lines = above ++ (front ++ '\x00' :: back) :: below ∧
    (∀ line ∈ above, '\x00' ∉ line) ∧ '\x00' ∉ front ∧
    position = { line := above.length + 1, column := front.length + 1 }

theorem firstNul_of_firstLine (source front back : Text) (below : List Text)
    (flat : '\n' ∉ front) (new : '\x00' ∉ front) (begins : front ++ ['\x00'] <+: source)
    (lines : source.lines = (front ++ '\x00' :: back) :: below) :
    source.FirstNul (.after (source.takeWhile (· != '\x00'))) := by
  obtain ⟨rest, rfl⟩ := begins
  have cut : (front ++ ['\x00'] ++ rest).takeWhile (· != '\x00') = front := by
    rw [List.append_assoc, takeWhile_bne_append _ _ _ new]
    simp
  rw [cut, Position.after_of_flat front flat]
  exact ⟨[], front, back, below, lines, by simp, new, by simp⟩

theorem firstNul_after (source : Text) (nul : '\x00' ∈ source) :
    source.FirstNul (.after (source.takeWhile (· != '\x00'))) := by
  induction source using lines_induction with
  | last line flat =>
    obtain ⟨front, back, rfl, new⟩ := List.eq_append_cons_of_mem nul
    have flat' : '\n' ∉ front := fun broken => flat (List.mem_append_left _ broken)
    exact firstNul_of_firstLine _ front back [] flat' new ⟨back, by simp⟩ (lines_of_flat _ flat)
  | above line rest flat ih =>
    by_cases here : '\x00' ∈ line
    next =>
      obtain ⟨front, back, rfl, new⟩ := List.eq_append_cons_of_mem here
      have flat' : '\n' ∉ front := fun broken => flat (List.mem_append_left _ broken)
      apply firstNul_of_firstLine _ front back rest.lines flat' new ⟨back ++ '\n' :: rest, by simp⟩
      rw [lines_append_newline, lines_of_flat _ flat]
      rfl
    next =>
      have below : '\x00' ∈ rest := by simpa [here] using nul
      obtain ⟨above, front, back, later, lines, clear, new, position⟩ := ih below
      have cut : (line ++ '\n' :: rest).takeWhile (· != '\x00') =
          line ++ '\n' :: rest.takeWhile (· != '\x00') := by
        rw [takeWhile_bne_append _ _ _ here]
        simp
      rw [cut, Position.after_append_newline line _ flat, position]
      refine ⟨line :: above, front, back, later, ?_, ?_, new, by simp⟩
      · rw [lines_append_newline, lines_of_flat line flat, lines]
        rfl
      · simpa [here] using clear

theorem inputError?_of_nul (source : Text) (nul : '\x00' ∈ source) :
    ∃ position, source.FirstNul position ∧ source.inputError? = some (.nul position) := by
  have nonempty : source ≠ [] := List.ne_nil_of_mem nul
  exact ⟨_, source.firstNul_after nul, by simp [inputError?, nonempty, nul]⟩

end Text

end LineLexer
