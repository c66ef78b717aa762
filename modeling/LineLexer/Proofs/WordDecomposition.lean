import LineLexer.Proofs.MaximalRuns
import LineLexer.Proofs.WordTexts
import Mathlib.Data.List.Sort

set_option autoImplicit false

namespace LineLexer

structure Word.Stands (word : Word) (line : Text) (number : Int) (before after : Text) : Prop where
  split : line = before ++ word.text ++ after
  placed : word = .startingAt { line := number, column := before.length + 1 } word.text

structure Text.SplitsInto (line : Text) (number : Int) (words : List Word) : Prop where
  placed : ∀ word ∈ words, ∃ before after, word.Stands line number before after
  shaped : ∀ word ∈ words,
    word.text.isDelimiter = true ∨ word.text.isNonemptyRun isRunChar = true
  covering : ∀ (before : Text) (c : Char) (after : Text),
    line = before ++ c :: after → LineLexer.isBlank c = false →
      ∃ word ∈ words, word.span.contains { line := number, column := before.length + 1 } = true
  ordered : words.Pairwise fun first second => first.span.stop ≤ second.span.start
  parted : ∀ first ∈ words, ∀ second ∈ words,
    first.text.isNonemptyRun isRunChar = true → second.text.isNonemptyRun isRunChar = true →
      first.span.stop ≠ second.span.start

inductive WordBetween (before after : Text) : Text → Prop
  | delimiter (c : Char) (listed : c ∈ delimiters) : WordBetween before after [c]
  | run (run : Text) (maximal : MaximalRun isRunChar before run after) :
      WordBetween before after run

def Word.Before (first second : Word) : Prop :=
  first.span.start < second.span.start

instance : Std.Irrefl Word.Before :=
  ⟨fun word => lt_irrefl word.span.start⟩

instance : Std.Antisymm Word.Before :=
  ⟨fun _ _ before behind => absurd (lt_trans before behind) (lt_irrefl _)⟩

theorem isOneOf_iff (chars : List Char) (text : Text) :
    text.isOneOf chars = true ↔ ∃ c ∈ chars, text = [c] := by
  unfold Text.isOneOf
  split
  next c => simp
  next other =>
    simp only [Bool.false_eq_true, false_iff, not_exists, not_and]
    exact fun c _ => other c

theorem isDelimiter_iff (text : Text) :
    text.isDelimiter = true ↔ ∃ c ∈ delimiters, text = [c] :=
  isOneOf_iff delimiters text

theorem isBlank_of_delimiter (c : Char) (listed : c ∈ delimiters) : isBlank c = false := by
  have all : delimiters.all (!isBlank ·) = true := by decide
  simpa using List.all_eq_true.mp all c listed

theorem isRunChar_of_delimiter (c : Char) (listed : c ∈ delimiters) : isRunChar c = false := by
  simp [isRunChar, listed]

theorem mem_delimiters_of_alone (c : Char) (shown : isBlank c = false)
    (alone : isRunChar c = false) : c ∈ delimiters := by
  simpa [isRunChar, shown] using alone

namespace Word

variable {word other : Word} {line : Text} {number : Int} {before after before' after' : Text}

theorem Stands.start (stands : word.Stands line number before after) :
    word.span.start = { line := number, column := before.length + 1 } := by
  rw [stands.placed, startingAt]

theorem Stands.stop (stands : word.Stands line number before after) :
    word.span.stop = { line := number, column := before.length + 1 + word.text.length } :=
  congrArg (·.span.stop) stands.placed

theorem Stands.contains_iff (stands : word.Stands line number before after) (index : Nat) :
    word.span.contains { line := number, column := index + 1 } = true ↔
      before.length ≤ index ∧ index < before.length + word.text.length := by
  simp only [Span.contains_iff, stands.start, stands.stop, Position.le_iff, Position.lt_iff,
    Int.lt_irrefl, true_and, false_or]
  omega

theorem Stands.stop_le_start_iff (stands : word.Stands line number before after)
    (stands' : other.Stands line number before' after') :
    word.span.stop ≤ other.span.start ↔
      before.length + word.text.length ≤ before'.length := by
  simp only [stands.stop, stands'.start, Position.le_iff, Int.lt_irrefl, true_and, false_or]
  omega

theorem Stands.stop_eq_start_iff (stands : word.Stands line number before after)
    (stands' : other.Stands line number before' after') :
    word.span.stop = other.span.start ↔
      before.length + word.text.length = before'.length := by
  simp only [stands.stop, stands'.start, Position.mk.injEq, true_and]
  omega

end Word

namespace Text

theorem boundary_of_pieces (line : Text) (front back : List Text)
    (pieces : line.pieces = front ++ back) (c d : Char) (ending : c ∈ front.flatten.getLast?)
    (beginning : d ∈ back.flatten.head?) : (isRunChar c && isRunChar d) = false := by
  have apart := List.isChain_getLast_head_splitBy
    (fun left right => isRunChar left && isRunChar right) line
  rw [← Text.pieces, pieces] at apart
  rcases List.eq_nil_or_concat front with rfl | ⟨init, left, rfl⟩
  · simp at ending
  cases back with
  | nil => simp at beginning
  | cons right rest =>
    simp only [List.concat_eq_append, List.append_assoc, List.singleton_append,
      List.isChain_append_cons_cons] at apart
    obtain ⟨-, ⟨filled, filled', different⟩, -⟩ := apart
    have leftEnds : left.getLast filled = c := by
      simpa [List.getLast?_append_of_ne_nil _ filled, List.getLast?_eq_some_getLast filled]
        using ending
    have rightBegins : right.head filled' = d := by
      simpa [List.head?_append_of_ne_nil _ filled', List.head?_eq_some_head filled']
        using beginning
    rwa [leftEnds, rightBegins] at different

theorem wordBetween_of_pieces (line text : Text) (first last : List Text)
    (pieces : line.pieces = first ++ text :: last) (shown : text.isBlank = false) :
    WordBetween first.flatten last.flatten text := by
  have member : text ∈ line.pieces := by simp [pieces]
  have nonempty : text ≠ [] := List.ne_nil_of_mem_splitBy member
  rcases line.run_or_alone_of_mem_pieces text member with within | ⟨c, rfl, alone⟩
  · refine .run text ⟨nonempty, within, ?_, ?_⟩
    · intro c ending
      have apart := line.boundary_of_pieces first (text :: last) pieces c (text.head nonempty)
        ending (by simp [List.head?_append_of_ne_nil _ nonempty, List.head?_eq_some_head nonempty])
      simpa [within _ (List.head_mem nonempty)] using apart
    · intro d beginning
      have apart := line.boundary_of_pieces (first ++ [text]) last (by simpa using pieces)
        (text.getLast nonempty) d
        (by simp [List.getLast?_append_of_ne_nil _ nonempty,
          List.getLast?_eq_some_getLast nonempty]) beginning
      simpa [within _ (List.getLast_mem nonempty)] using apart
  · exact .delimiter c (mem_delimiters_of_alone c (by simpa [isBlank] using shown) alone)

theorem pieces_append_run (before run after : Text)
    (maximal : MaximalRun isRunChar before run after) :
    (before ++ run ++ after).pieces = before.pieces ++ run :: after.pieces := by
  have chain : run.IsChain fun left right => isRunChar left && isRunChar right := by
    apply List.Pairwise.isChain
    apply List.pairwise_of_forall_mem_list
    intro left inLeft right inRight
    simp [maximal.within left inLeft, maximal.within right inRight]
  rw [List.append_assoc, pieces,
    List.splitBy_append fun left last right _ => by simp [maximal.opens left last],
    List.splitBy_append fun left _ right head => by simp [maximal.ends right head],
    List.splitBy_of_isChain maximal.nonempty chain]
  rfl

section WordBetween

variable {before text after : Text} (between : WordBetween before after text)

include between

theorem pieces_around :
    (before ++ text ++ after).pieces = before.pieces ++ text :: after.pieces := by
  cases between with
  | delimiter c listed =>
    simpa using pieces_append_alone before after c (isRunChar_of_delimiter c listed)
  | run _ maximal => exact pieces_append_run before text after maximal

theorem not_isBlank_of_wordBetween : text.isBlank = false := by
  cases between with
  | delimiter c listed => simp [Text.isBlank, isBlank_of_delimiter c listed]
  | run _ maximal =>
    obtain ⟨c, rest, rfl⟩ := List.exists_cons_of_ne_nil maximal.nonempty
    have first := isBlank_of_isRunChar c (maximal.within c List.mem_cons_self)
    simp [Text.isBlank, first]

theorem maximal_of_wordBetween (run : text.isNonemptyRun isRunChar = true) :
    MaximalRun isRunChar before text after := by
  cases between with
  | delimiter c listed => simp [isNonemptyRun, isRunChar_of_delimiter c listed] at run
  | run _ maximal => exact maximal

end WordBetween

theorem mem_words_iff (line : Text) (number : Int) (word : Word) :
    word ∈ line.words number ↔ ∃ before after, word.Stands line number before after ∧
      WordBetween before after word.text := by
  have whole : line.pieces.flatten = line := List.flatten_splitBy _ line
  constructor
  · intro member
    obtain ⟨placed, shown⟩ := List.mem_filter.mp member
    obtain ⟨first, last, pieces, standing⟩ := Word.exists_pieces_of_mem_place _ _ word placed
    rw [Position.advance_first] at standing
    have split : line = first.flatten ++ word.text ++ last.flatten := by
      rw [← whole, pieces]
      simp
    exact ⟨first.flatten, last.flatten, ⟨split, standing⟩,
      wordBetween_of_pieces line word.text first last pieces (by simpa using shown)⟩
  · rintro ⟨before, after, ⟨split, placed⟩, between⟩
    refine List.mem_filter.mpr ⟨?_, by simpa using not_isBlank_of_wordBetween between⟩
    have standing : before.pieces.flatten = before := List.flatten_splitBy _ before
    rw [split, pieces_around between, Word.place_append, Word.place, standing,
      Position.advance_first, ← placed]
    simp

theorem exists_wordBetween (front back : Text) (c : Char) (shown : LineLexer.isBlank c = false) :
    ∃ before left right after, front = before ++ left ∧ back = right ++ after ∧
      WordBetween before after (left ++ c :: right) := by
  by_cases run : isRunChar c = true
  · obtain ⟨before, left, right, after, split, split', maximal⟩ :=
      exists_maximalRun isRunChar front back c run
    exact ⟨before, left, right, after, split, split', .run _ maximal⟩
  · have listed := mem_delimiters_of_alone c shown (by simpa using run)
    exact ⟨front, [], [], back, by simp, rfl, .delimiter c listed⟩

theorem splitsInto_words (line : Text) (number : Int) :
    line.SplitsInto number (line.words number) where
  placed word member := by
    obtain ⟨before, after, stands, -⟩ := (line.mem_words_iff number word).mp member
    exact ⟨before, after, stands⟩
  shaped word member := by
    obtain ⟨before, after, -, between⟩ := (line.mem_words_iff number word).mp member
    generalize word.text = text at between
    cases between with
    | delimiter c listed => exact .inl ((isDelimiter_iff [c]).mpr ⟨c, listed, rfl⟩)
    | run _ maximal =>
      exact .inr ((isNonemptyRun_iff isRunChar text).mpr ⟨maximal.nonempty, maximal.within⟩)
  covering front c back split shown := by
    obtain ⟨before, left, right, after, rfl, rfl, between⟩ := exists_wordBetween front back c shown
    let word := Word.startingAt { line := number, column := before.length + 1 } (left ++ c :: right)
    have stands : word.Stands line number before after :=
      ⟨by simp [word, split, Word.startingAt], rfl⟩
    refine ⟨word, (line.mem_words_iff number word).mpr ⟨before, after, stands, between⟩, ?_⟩
    rw [stands.contains_iff]
    simp [word, Word.startingAt]
  ordered := line.words_pairwise number
  parted first left second right run run' := by
    obtain ⟨before, after, stands, between⟩ := (line.mem_words_iff number first).mp left
    obtain ⟨before', after', stands', -⟩ := (line.mem_words_iff number second).mp right
    rw [Ne, stands.stop_eq_start_iff stands']
    intro meet
    have same : before ++ first.text ++ after = before' ++ (second.text ++ after') := by
      rw [← stands.split, ← List.append_assoc, ← stands'.split]
    obtain ⟨-, follows⟩ := List.append_inj same (by simpa using meet)
    obtain ⟨filled, within⟩ := (isNonemptyRun_iff isRunChar second.text).mp run'
    have outside := (maximal_of_wordBetween between run).ends (second.text.head filled)
      (by simp [follows, List.head?_append_of_ne_nil _ filled, List.head?_eq_some_head filled])
    simp [within _ (List.head_mem filled)] at outside

namespace SplitsInto

variable {line : Text} {number : Int} {words : List Word}
  (splits : line.SplitsInto number words)

include splits

theorem exists_run_at (front back : Text) (c : Char) (split : line = front ++ c :: back)
    (run : isRunChar c = true) :
    ∃ word ∈ words, word.text.isNonemptyRun isRunChar = true ∧
      word.span.contains { line := number, column := front.length + 1 } = true := by
  have shown := isBlank_of_isRunChar c run
  obtain ⟨word, member, around⟩ := splits.covering front c back split shown
  rcases splits.shaped word member with delimiter | inRun
  · obtain ⟨before, after, stands⟩ := splits.placed word member
    obtain ⟨d, listed, only⟩ := (isDelimiter_iff word.text).mp delimiter
    rw [stands.contains_iff, only, List.length_singleton] at around
    have same : before ++ ([d] ++ after) = front ++ c :: back := by
      rw [← split, ← only, ← List.append_assoc, ← stands.split]
    obtain ⟨-, here⟩ := List.append_inj same (by omega)
    obtain rfl := (List.cons.inj here).1
    have alone := isRunChar_of_delimiter d listed
    simp [run] at alone
  · exact ⟨word, member, inRun, around⟩

variable {word : Word} (member : word ∈ words)

include member

-- A run character beside a run would stand in a second run that touches the first.
theorem not_isRunChar_beside {before after : Text} (stands : word.Stands line number before after)
    (inRun : word.text.isNonemptyRun isRunChar = true) (front back : Text) (c : Char)
    (split : line = front ++ c :: back)
    (beside : front.length + 1 = before.length ∨
      front.length = before.length + word.text.length) : isRunChar c = false := by
  by_contra run
  obtain ⟨other, found, inRun', around⟩ :=
    splits.exists_run_at front back c split (by simpa using run)
  obtain ⟨before', after', stands'⟩ := splits.placed other found
  have inside := (stands'.contains_iff front.length).mp around
  rcases Word.apart_of_pairwise splits.ordered found member with rfl | earlier | later
  · rw [stands.contains_iff] at around
    omega
  · rw [stands'.stop_le_start_iff stands] at earlier
    have apart := splits.parted other found word member inRun' inRun
    rw [Ne, stands'.stop_eq_start_iff stands] at apart
    omega
  · rw [stands.stop_le_start_iff stands'] at later
    have apart := splits.parted word member other found inRun inRun'
    rw [Ne, stands.stop_eq_start_iff stands'] at apart
    omega

theorem mem_words : word ∈ line.words number := by
  obtain ⟨before, after, stands⟩ := splits.placed word member
  refine (line.mem_words_iff number word).mpr ⟨before, after, stands, ?_⟩
  rcases splits.shaped word member with delimiter | inRun
  · obtain ⟨c, listed, only⟩ := (isDelimiter_iff word.text).mp delimiter
    rw [only]
    exact .delimiter c listed
  obtain ⟨filled, within⟩ := (isNonemptyRun_iff isRunChar word.text).mp inRun
  refine .run _ ⟨filled, within, ?_, ?_⟩
  · intro c ending
    obtain ⟨front, rfl⟩ := List.getLast?_eq_some_iff.mp ending
    exact splits.not_isRunChar_beside member stands inRun front (word.text ++ after) c
      (by simp [stands.split]) (.inl (by simp))
  · intro c beginning
    obtain ⟨rest, rfl⟩ := List.head?_eq_some_iff.mp beginning
    exact splits.not_isRunChar_beside member stands inRun (before ++ word.text) rest c
      stands.split (.inr (by simp))

omit member

-- The first character of a word of the line is in some word of the list, which is the same word.
theorem mem_of_mem_words (member : word ∈ line.words number) : word ∈ words := by
  obtain ⟨before, after, stands, -⟩ := (line.mem_words_iff number word).mp member
  obtain ⟨-, -, filled, -⟩ := line.mem_words number word member
  obtain ⟨c, rest, text⟩ := List.exists_cons_of_ne_nil filled
  have shown := line.solid_of_mem_words number word member c (by simp [text])
  obtain ⟨other, found, around⟩ :=
    splits.covering before c (rest ++ after) (by simp [stands.split, text]) shown
  have here : word.span.contains { line := number, column := before.length + 1 } = true := by
    rw [stands.contains_iff, text]
    simp
  obtain rfl := Word.eq_of_contains (line.words_pairwise number) member
    (splits.mem_words found) _ here around
  exact found

theorem increasing : words.Pairwise Word.Before := by
  apply splits.ordered.imp_of_mem
  intro first second member _ apart
  have short := line.start_lt_stop_of_mem_words number first (splits.mem_words member)
  exact lt_of_lt_of_le short apart

end SplitsInto

theorem words_eq_iff_splitsInto (line : Text) (number : Int) (words : List Word) :
    line.words number = words ↔ line.SplitsInto number words := by
  constructor
  · rintro rfl
    exact line.splitsInto_words number
  · intro splits
    exact List.Subset.antisymm_of_pairwise (line.splitsInto_words number).increasing
      splits.increasing (fun _ => splits.mem_of_mem_words) (fun _ => splits.mem_words)

end Text

end LineLexer
