import LineLexer.Run
import Mathlib.Order.Defs.PartialOrder

set_option autoImplicit false

namespace LineLexer

namespace Position

instance : LE Position where
  le p q := p.line < q.line ∨ p.line = q.line ∧ p.column ≤ q.column

instance : LT Position where
  lt p q := p.line < q.line ∨ p.line = q.line ∧ p.column < q.column

theorem le_iff (p q : Position) :
    p ≤ q ↔ p.line < q.line ∨ p.line = q.line ∧ p.column ≤ q.column := Iff.rfl

theorem lt_iff (p q : Position) :
    p < q ↔ p.line < q.line ∨ p.line = q.line ∧ p.column < q.column := Iff.rfl

instance (p q : Position) : Decidable (p ≤ q) :=
  inferInstanceAs (Decidable (p.line < q.line ∨ p.line = q.line ∧ p.column ≤ q.column))

instance (p q : Position) : Decidable (p < q) :=
  inferInstanceAs (Decidable (p.line < q.line ∨ p.line = q.line ∧ p.column < q.column))

instance : Preorder Position where
  le_refl p := by simp [le_iff]
  le_trans p q r := by simp only [le_iff]; omega
  lt_iff_le_not_ge p q := by simp only [le_iff, lt_iff]; omega

end Position

namespace Word

theorem mem_place (start : Position) (pieces : List Text) (word : Word)
    (member : word ∈ place start pieces) :
    word.span.start.line = start.line ∧ start.column ≤ word.span.start.column ∧
      word.span.stop = word.span.start.advance word.text.length := by
  induction pieces generalizing start with
  | nil => simp [place] at member
  | cons piece rest ih =>
    rcases List.mem_cons.mp member with rfl | later
    · simp [startingAt]
    · obtain ⟨line, column, stop⟩ := ih _ later
      refine ⟨line, ?_, stop⟩
      simp only [Position.advance] at column
      omega

theorem place_pairwise (start : Position) (pieces : List Text) :
    (place start pieces).Pairwise fun first second => first.span.stop ≤ second.span.start := by
  induction pieces generalizing start with
  | nil => exact .nil
  | cons piece rest ih =>
    refine List.pairwise_cons.mpr ⟨?_, ih _⟩
    intro word member
    obtain ⟨line, column, -⟩ := mem_place _ rest word member
    exact .inr ⟨line.symm, column⟩

end Word

namespace Text

theorem mem_words (line : Text) (number : Int) (word : Word)
    (member : word ∈ line.words number) :
    word.span.start.line = number ∧ 1 ≤ word.span.start.column ∧ word.text ≠ [] ∧
      word.span.stop = word.span.start.advance word.text.length := by
  obtain ⟨placed, shown⟩ := List.mem_filter.mp member
  obtain ⟨same, column, stop⟩ := Word.mem_place _ _ word placed
  refine ⟨same, column, ?_, stop⟩
  intro empty
  simp [empty, isBlank] at shown

theorem start_lt_stop_of_mem_words (line : Text) (number : Int) (word : Word)
    (member : word ∈ line.words number) : word.span.start < word.span.stop := by
  obtain ⟨-, -, nonempty, stop⟩ := mem_words line number word member
  have width := List.length_pos_iff.mpr nonempty
  rw [stop]
  refine .inr ⟨rfl, ?_⟩
  simp only [Position.advance]
  omega

theorem words_pairwise (line : Text) (number : Int) :
    (line.words number).Pairwise fun first second => first.span.stop ≤ second.span.start :=
  (Word.place_pairwise _ _).filter _

def wordsFrom (number : Nat) (lines : List Text) : List Word :=
  (lines.zipIdx number).flatMap fun (line, number) => line.words number

def sourceWords (source : Text) : List Word :=
  wordsFrom 1 source.lines

theorem wordsFrom_cons (number : Nat) (line : Text) (rest : List Text) :
    wordsFrom number (line :: rest) = line.words number ++ wordsFrom (number + 1) rest := by
  simp [wordsFrom, List.zipIdx_cons]

theorem mem_wordsFrom (number : Nat) (lines : List Text) (word : Word)
    (member : word ∈ wordsFrom number lines) :
    ∃ (line : Text) (later : Nat), number ≤ later ∧ word ∈ line.words later := by
  induction lines generalizing number with
  | nil => simp [wordsFrom] at member
  | cons line rest ih =>
    rw [wordsFrom_cons] at member
    rcases List.mem_append.mp member with here | below
    · exact ⟨line, number, Nat.le_refl _, here⟩
    · obtain ⟨other, later, bound, found⟩ := ih (number + 1) below
      exact ⟨other, later, by omega, found⟩

theorem wordsFrom_pairwise (number : Nat) (lines : List Text) :
    (wordsFrom number lines).Pairwise fun first second => first.span.stop ≤ second.span.start := by
  induction lines generalizing number with
  | nil => exact .nil
  | cons line rest ih =>
    rw [wordsFrom_cons]
    refine List.pairwise_append.mpr ⟨words_pairwise line number, ih (number + 1), ?_⟩
    intro first here second below
    obtain ⟨other, later, bound, found⟩ := mem_wordsFrom _ rest second below
    obtain ⟨above, -, -, stop⟩ := mem_words line number first here
    obtain ⟨under, -⟩ := mem_words other later second found
    refine .inl ?_
    simp only [stop, Position.advance]
    omega

theorem sourceWords_pairwise (source : Text) :
    source.sourceWords.Pairwise fun first second => first.span.stop ≤ second.span.start :=
  wordsFrom_pairwise 1 source.lines

theorem start_lt_stop_of_mem_sourceWords (source : Text) (word : Word)
    (member : word ∈ source.sourceWords) : word.span.start < word.span.stop := by
  obtain ⟨line, number, -, found⟩ := mem_wordsFrom 1 source.lines word member
  exact start_lt_stop_of_mem_words line number word found

end Text

namespace Event

def word? : Event → Option Word
  | line => none
  | word given => some given

-- Every word stands on the line that the line breaks before it have counted up to.
def Numbered (number : Int) : List Event → Prop
  | [] => True
  | line :: rest => Numbered (number + 1) rest
  | word given :: rest => given.span.start.line = number ∧ Numbered number rest

theorem numbered_append_words (number : Int) (words : List Word) (rest : List Event)
    (standing : ∀ word ∈ words, word.span.start.line = number) (below : Numbered number rest) :
    Numbered number (words.map .word ++ rest) := by
  induction words with
  | nil => exact below
  | cons word words ih =>
    have others := fun other member => standing other (List.mem_cons_of_mem word member)
    exact ⟨standing word List.mem_cons_self, ih others⟩

theorem numbered_ofLines (number : Int) (lines : List Text) :
    Numbered number (ofLines (number + 1) lines) := by
  induction lines generalizing number with
  | nil => trivial
  | cons text rest ih =>
    refine numbered_append_words (number + 1) _ _ ?_ (ih (number + 1))
    intro word member
    exact (text.mem_words (number + 1) word member).1

theorem words_ofLines (number : Nat) (lines : List Text) :
    (ofLines number lines).filterMap word? = Text.wordsFrom number lines := by
  induction lines generalizing number with
  | nil => rfl
  | cons text rest ih =>
    have next := ih (number + 1)
    rw [Int.natCast_add, Int.natCast_one] at next
    have all (words : List Word) : (words.map word).filterMap word? = words := by
      simp [List.filterMap_map, Function.comp_def, word?]
    simp [ofLines, Text.wordsFrom_cons, List.filterMap_cons, word?, all, next]

end Event

namespace Text

theorem numbered_events (source : Text) : Event.Numbered 0 source.events :=
  Event.numbered_ofLines 0 source.lines

theorem words_events (source : Text) :
    source.events.filterMap Event.word? = source.sourceWords :=
  Event.words_ofLines 1 source.lines

end Text

end LineLexer
