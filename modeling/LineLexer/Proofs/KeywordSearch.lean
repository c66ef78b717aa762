import LineLexer.Grammar
import LineLexer.Proofs.MaximalRuns

set_option autoImplicit false

namespace LineLexer

theorem blankPoints_apart : ∀ blanks ∈ blankPoints,
    (blanks.2 < 48 ∨ 122 < blanks.1) ∧
      ∀ words ∈ wordPoints, blanks.2 < words.1 ∨ words.2 < blanks.1 := by
  decide +kernel

theorem toNat_of_isIdentifierChar (c : Char) (ascii : Text.isIdentifierChar c = true) :
    48 ≤ c.toNat ∧ c.toNat ≤ 122 := by
  change (((decide (65 ≤ c.val ∧ c.val ≤ 90) ||
    (decide (97 ≤ c.val) && decide (c.val ≤ 122))) ||
    (decide (48 ≤ c.val) && decide (c.val ≤ 57))) || c == '_') = true at ascii
  simp only [Bool.or_eq_true, Bool.and_eq_true, decide_eq_true_eq, beq_iff_eq,
    UInt32.le_iff_toNat_le] at ascii
  change (((65 ≤ c.toNat ∧ c.toNat ≤ 90) ∨ (97 ≤ c.toNat ∧ c.toNat ≤ 122)) ∨
    (48 ≤ c.toNat ∧ c.toNat ≤ 57)) ∨ c = '_' at ascii
  rcases ascii with letterOrDigit | rfl
  · omega
  · decide

theorem isWordChar_of_isBlank (c : Char) (blank : isBlank c = true) : isWordChar c = false := by
  obtain ⟨blanks, listed, low, high⟩ := (CodePoints.has_iff blankPoints c).mp blank
  obtain ⟨outside, apart⟩ := blankPoints_apart blanks listed
  by_contra word
  simp only [isWordChar, Bool.not_eq_false] at word
  rcases (Bool.or_eq_true _ _).mp word with ascii | letter
  · have bounds := toNat_of_isIdentifierChar c ascii
    omega
  · obtain ⟨words, listed', low', high'⟩ := (CodePoints.has_iff wordPoints c).mp letter
    have split := apart words listed'
    omega

variable {before after : Option Char} {c : Char}

theorem isWordBoundary_before (word : isWordChar c = true) :
    isWordBoundary before (some c) = true ↔ ∀ d ∈ before, isWordChar d = false := by
  cases before <;> simp [isWordBoundary, word]

theorem isWordBoundary_after (word : isWordChar c = true) :
    isWordBoundary (some c) after = true ↔ ∀ d ∈ after, isWordChar d = false := by
  cases after <;> simp [isWordBoundary, word]

namespace Keyword

def leading : Keyword → Text
  | plain name => name
  | pair first _ => first

section Boundaries

variable {name : Text} (filled : name ≠ []) (within : ∀ c ∈ name, isWordChar c = true)

include filled within

theorem isWordBoundary_first (before : Option Char) (rest : Text) :
    isWordBoundary before (name ++ rest).head? = true ↔ ∀ c ∈ before, isWordChar c = false := by
  cases name with
  | nil => contradiction
  | cons c name => exact isWordBoundary_before (within c List.mem_cons_self)

theorem isWordBoundary_last (after : Option Char) :
    isWordBoundary name.getLast? after = true ↔ ∀ c ∈ after, isWordChar c = false := by
  rw [List.getLast?_eq_some_getLast filled]
  exact isWordBoundary_after (within _ (List.getLast_mem filled))

theorem begins_plain_iff (front back : Text) :
    (plain name).begins front.getLast? back = true ↔
      ∃ after, back = name ++ after ∧ MaximalRun isWordChar front name after := by
  cases found : Text.after? name back with
  | none =>
    simp only [begins, split?, found, Option.map_none, Bool.false_eq_true, false_iff, not_exists]
    rintro after ⟨rfl, -⟩
    simp [(Text.after?_eq_some name _ after).mpr rfl] at found
  | some after =>
    obtain rfl := (Text.after?_eq_some name back after).mp found
    simp only [begins, split?, found, Option.map_some, Bool.and_eq_true,
      isWordBoundary_first filled within, isWordBoundary_last filled within]
    constructor
    · rintro ⟨opens, ends⟩
      exact ⟨after, rfl, filled, within, opens, ends⟩
    · rintro ⟨_, same, maximal⟩
      obtain rfl := List.append_cancel_left same
      exact ⟨maximal.opens, maximal.ends⟩

end Boundaries

theorem split?_pair (first second text found rest : Text)
    (splits : (pair first second).split? text = some (found, rest)) :
    ∃ blank, isBlank blank = true ∧ found = first ++ blank :: second ∧ text = found ++ rest := by
  simp only [split?] at splits
  split at splits
  next blank after begun =>
    split at splits
    next white =>
      obtain ⟨_, closed, same⟩ := Option.map_eq_some_iff.mp splits
      obtain ⟨rfl, rfl⟩ := Prod.mk.inj same
      rw [Text.after?_eq_some] at begun closed
      exact ⟨blank, white, rfl, by simp [begun, closed]⟩
    next => contradiction
  next => contradiction

-- The blank of a pair ends its first word.
theorem plain_begins_of_pair (first second front back : Text) (filled : first ≠ [])
    (within : ∀ c ∈ first, isWordChar c = true)
    (pairBegins : (pair first second).begins front.getLast? back = true) :
    (plain first).begins front.getLast? back = true := by
  unfold begins at pairBegins
  split at pairBegins
  next found rest splits =>
    obtain ⟨blank, white, rfl, rfl⟩ := split?_pair first second back found rest splits
    rw [Bool.and_eq_true, List.append_assoc,
      isWordBoundary_first filled within] at pairBegins
    rw [begins_plain_iff filled within]
    refine ⟨blank :: second ++ rest, by simp, filled, within, pairBegins.1, ?_⟩
    simpa using isWordChar_of_isBlank blank white
  next => contradiction

theorem getLast?_cons_or (c : Char) (front : Text) (before : Option Char) :
    (c :: front).getLast?.or before = front.getLast?.or (some c) := by
  cases last : front.getLast? <;> simp [List.getLast?_cons, last]

theorem occurs_iff (keyword : Keyword) (before : Option Char) (text : Text) :
    keyword.occurs before text = true ↔ ∃ front back, text = front ++ back ∧
      keyword.begins (front.getLast?.or before) back = true := by
  induction text generalizing before with
  | nil => simp [occurs]
  | cons c rest ih =>
    rw [occurs, Bool.or_eq_true, ih]
    constructor
    · rintro (here | ⟨front, back, rfl, later⟩)
      · exact ⟨[], c :: rest, rfl, by simpa using here⟩
      · exact ⟨c :: front, back, rfl, by rwa [getLast?_cons_or]⟩
    · rintro ⟨front, back, split, begins⟩
      cases front with
      | nil => exact .inl (by simpa [split] using begins)
      | cons d front =>
        obtain ⟨rfl, rfl⟩ := List.cons.inj split
        exact .inr ⟨front, back, rfl, by rwa [getLast?_cons_or] at begins⟩

-- The first keyword of the list that stands at the leftmost place where one does.
def search? (keywords : List Keyword) (before : Option Char) : Text → Option Keyword
  | [] => keywords.find? (·.begins before [])
  | c :: rest =>
    (keywords.find? (·.begins before (c :: rest))).or (search? keywords (some c) rest)

theorem isSome_search? (keywords : List Keyword) (before : Option Char) (text : Text) :
    (search? keywords before text).isSome = keywords.any (·.occurs before text) := by
  induction text generalizing before with
  | nil => simp [search?, occurs, List.isSome_find?]
  | cons c rest ih =>
    simp only [search?, occurs, Option.isSome_or, List.isSome_find?, ih]
    rw [Bool.eq_iff_iff]
    simp only [Bool.or_eq_true, List.any_eq_true, and_or_left, exists_or]

structure PlainlyLed (keywords : List Keyword) : Prop where
  word : ∀ keyword ∈ keywords, keyword.leading.isNonemptyRun isWordChar = true
  listed : ∀ keyword ∈ keywords, .plain keyword.leading ∈ keywords

theorem mem_erase_pair (keywords : List Keyword) (first second name : Text) :
    .plain name ∈ keywords.erase (.pair first second) ↔ .plain name ∈ keywords :=
  List.mem_erase_of_ne (by simp)

theorem PlainlyLed.erase_pair {keywords : List Keyword} (led : PlainlyLed keywords)
    (first second : Text) : PlainlyLed (keywords.erase (.pair first second)) where
  word keyword kept := led.word keyword (List.mem_of_mem_erase kept)
  listed keyword kept := by
    rw [mem_erase_pair]
    exact led.listed keyword (List.mem_of_mem_erase kept)

end Keyword

theorem Text.hasKeyword_iff (text : Text) (keywords : List Keyword)
    (led : Keyword.PlainlyLed keywords) :
    text.hasKeyword keywords = true ↔ ∃ before run after, text = before ++ run ++ after ∧
      MaximalRun isWordChar before run after ∧ .plain run ∈ keywords := by
  constructor
  · intro held
    obtain ⟨keyword, listed, occurs⟩ := List.any_eq_true.mp held
    obtain ⟨front, back, rfl, begins⟩ := (keyword.occurs_iff none text).mp occurs
    obtain ⟨filled, within⟩ := (isNonemptyRun_iff _ _).mp (led.word keyword listed)
    have leads : (Keyword.plain keyword.leading).begins front.getLast? back = true := by
      rw [Option.or_none] at begins
      cases keyword with
      | plain name => exact begins
      | pair first second =>
        exact Keyword.plain_begins_of_pair first second front back filled within begins
    obtain ⟨after, rfl, maximal⟩ := (Keyword.begins_plain_iff filled within front back).mp leads
    exact ⟨front, keyword.leading, after, by simp, maximal, led.listed keyword listed⟩
  · rintro ⟨before, run, after, rfl, maximal, listed⟩
    refine List.any_eq_true.mpr ⟨.plain run, listed, ?_⟩
    rw [Keyword.occurs_iff]
    refine ⟨before, run ++ after, by simp, ?_⟩
    rw [Option.or_none, Keyword.begins_plain_iff maximal.nonempty maximal.within]
    exact ⟨after, rfl, maximal⟩

theorem Text.hasKeyword_erase_pair (text : Text) (keywords : List Keyword)
    (led : Keyword.PlainlyLed keywords) (first second : Text) :
    text.hasKeyword (keywords.erase (.pair first second)) = text.hasKeyword keywords := by
  rw [Bool.eq_iff_iff, text.hasKeyword_iff keywords led,
    text.hasKeyword_iff _ (led.erase_pair first second)]
  simp only [Keyword.mem_erase_pair]

theorem isWordChar_of_isIdentifierChar (c : Char) (ascii : Text.isIdentifierChar c = true) :
    isWordChar c = true := by
  rw [isWordChar, Bool.or_eq_true]
  exact .inl ascii

theorem Text.isWordChar_of_isIdentifier (text : Text) (identifier : text.isIdentifier = true) :
    text ≠ [] ∧ ∀ c ∈ text, isWordChar c = true := by
  cases text with
  | nil => contradiction
  | cons c rest =>
    obtain ⟨start, others⟩ := (Bool.and_eq_true _ _).mp identifier
    have first : isIdentifierChar c = true := by
      rcases (Bool.or_eq_true _ _).mp start with letter | mark
      · simp [isIdentifierChar, Char.isAlphanum, letter]
      · simp [isIdentifierChar, mark]
    refine ⟨List.cons_ne_nil c rest, ?_⟩
    intro d member
    apply isWordChar_of_isIdentifierChar
    rcases List.mem_cons.mp member with rfl | later
    · exact first
    · exact List.all_eq_true.mp others d later

namespace Grammar

def compound : Keyword :=
  .pair "using".toList "static".toList

example : standardKeywords.filter (fun keyword => keyword != .plain keyword.leading) =
    [compound] := by
  decide +kernel

theorem plainlyLed_standardKeywords : Keyword.PlainlyLed standardKeywords where
  word := by decide +kernel
  listed := by decide +kernel

structure KeywordLaw (text : Text) : Prop where
  runs : standard.isReserved text = true ↔ ∃ before run after, text = before ++ run ++ after ∧
    MaximalRun isWordChar before run after ∧ .plain run ∈ standardKeywords
  withoutCompound : text.hasKeyword (standardKeywords.erase compound) = standard.isReserved text
  inAnyOrder : ∀ keywords : List Keyword, keywords.Perm standardKeywords →
    (Keyword.search? keywords none text).isSome = standard.isReserved text
  identifier : text.isIdentifier = true →
    (standard.isReserved text = true ↔ .plain text ∈ standardKeywords)

theorem keywordLaw (text : Text) : KeywordLaw text := by
  have led := plainlyLed_standardKeywords
  have runs : standard.isReserved text = true ↔ _ := text.hasKeyword_iff standardKeywords led
  have without := text.hasKeyword_erase_pair standardKeywords led "using".toList "static".toList
  refine { runs, withoutCompound := without, inAnyOrder := ?_, identifier := ?_ }
  next =>
    intro keywords reordered
    rw [Keyword.isSome_search?]
    exact reordered.any_eq
  next =>
    intro identifier
    obtain ⟨filled, within⟩ := text.isWordChar_of_isIdentifier identifier
    rw [runs]
    constructor
    · rintro ⟨before, run, after, rfl, maximal, listed⟩
      rwa [maximal.whole within]
    · intro listed
      exact ⟨[], text, [], by simp, ⟨filled, within, by simp, by simp⟩, listed⟩

theorem keywordLaw_of_double :
    Text.isIdentifier "double".toList = true ∧ standard.isReserved "double".toList = true ∧
      standardKeywords.reverse.Perm standardKeywords ∧
      (Keyword.search? standardKeywords.reverse none "double".toList).isSome = true := by
  have identifier : Text.isIdentifier "double".toList = true := by decide
  have reserved := ((keywordLaw _).identifier identifier).mpr (by decide +kernel)
  have reversed := List.reverse_perm standardKeywords
  exact ⟨identifier, reserved, reversed, ((keywordLaw _).inAnyOrder _ reversed).trans reserved⟩

end Grammar

end LineLexer
