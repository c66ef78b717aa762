import LineLexer.Proofs.Pruning

set_option autoImplicit false

namespace LineLexer

def decimalDigits : List Char :=
  "0123456789".toList

def hexDigits : List Char :=
  "0123456789abcdefABCDEF".toList

def octalDigits : List Char :=
  "01234567".toList

def binaryDigits : List Char :=
  "01".toList

def radixes : List (List Char × List Char) :=
  [(['x', 'X'], hexDigits), (['o', 'O'], octalDigits), (['b', 'B'], binaryDigits)]

namespace Text

def IsRunOf (chars : List Char) (text : Text) : Prop :=
  text ≠ [] ∧ ∀ c ∈ text, c ∈ chars

def IsFraction (text : Text) : Prop :=
  text = [] ∨ ∃ digits, IsRunOf decimalDigits digits ∧ text = '.' :: digits

inductive IsNumeral : Text → Prop
  | decimal (whole fraction suffix : Text) (digits : IsRunOf decimalDigits whole)
      (fractional : fraction.IsFraction) (suffixed : suffix ∈ [[], ['f'], ['F']]) :
      IsNumeral (whole ++ fraction ++ suffix)
  | radix (marks chars : List Char) (mark : Char) (digits : Text)
      (listed : (marks, chars) ∈ radixes) (marked : mark ∈ marks) (run : IsRunOf chars digits) :
      IsNumeral ('0' :: mark :: digits)

end Text

theorem forall_mem_of_all {holds : Char → Prop} [DecidablePred holds] (chars : List Char)
    (checked : (chars.all fun c => decide (holds c)) = true) : ∀ c ∈ chars, holds c := by
  simpa using checked

-- Two classes of ASCII characters are compared code point by code point.
theorem contains_eq_of_ascii (inClass : Char → Bool) (chars : List Char)
    (low : ∀ c, inClass c = true → c.toNat < 0x80) (low' : ∀ c ∈ chars, c.toNat < 0x80)
    (same : ∀ n < 0x80, inClass (.ofNat n) = chars.contains (.ofNat n)) (c : Char) :
    inClass c = chars.contains c := by
  by_cases ascii : c.toNat < 0x80
  next => simpa using same c.toNat ascii
  next =>
    have outside : inClass c = false := by
      by_contra inside
      exact ascii (low c (by simpa using inside))
    have unlisted : c ∉ chars := fun listed => ascii (low' c listed)
    simp [outside, unlisted]

theorem ascii_of_le {c : Char} (last : Char) (below : c ≤ last) (low : last.toNat < 0x80) :
    c.toNat < 0x80 :=
  Nat.lt_of_le_of_lt (UInt32.le_iff_toNat_le.mp below) low

theorem isDigit_eq (c : Char) : c.isDigit = decimalDigits.contains c := by
  apply contains_eq_of_ascii Char.isDigit
  · intro c digit
    have bounds := toNat_of_isIdentifierChar c (by
      simp [Text.isIdentifierChar, Char.isAlphanum, digit])
    omega
  · exact forall_mem_of_all _ (by decide)
  · decide

theorem isHexDigit_eq (c : Char) : Text.isHexDigit c = hexDigits.contains c := by
  apply contains_eq_of_ascii Text.isHexDigit
  · intro c digit
    simp only [Text.isHexDigit, Bool.or_eq_true, Bool.and_eq_true, decide_eq_true_eq] at digit
    rcases digit with (digit | small) | capital
    · have bounds := toNat_of_isIdentifierChar c (by
        simp [Text.isIdentifierChar, Char.isAlphanum, digit])
      omega
    · exact ascii_of_le 'f' small.2 (by decide)
    · exact ascii_of_le 'F' capital.2 (by decide)
  · exact forall_mem_of_all _ (by decide)
  · decide

theorem isOctalDigit_eq (c : Char) : Text.isOctalDigit c = octalDigits.contains c := by
  apply contains_eq_of_ascii Text.isOctalDigit
  · intro c digit
    simp only [Text.isOctalDigit, Bool.and_eq_true, decide_eq_true_eq] at digit
    exact ascii_of_le '7' digit.2 (by decide)
  · exact forall_mem_of_all _ (by decide)
  · decide

theorem isBinaryDigit_eq (c : Char) : Text.isBinaryDigit c = binaryDigits.contains c := by
  simp [Text.isBinaryDigit, binaryDigits, beq_eq_decide]

namespace Text

theorem isNonemptyRun_eq_true_iff (inRun : Char → Bool) (chars : List Char)
    (same : ∀ c, inRun c = chars.contains c) (text : Text) :
    text.isNonemptyRun inRun = true ↔ text.IsRunOf chars := by
  simp [isNonemptyRun_iff, IsRunOf, same]

theorem takeWhile_run (inRun : Char → Bool) (run rest : Text) (within : ∀ c ∈ run, inRun c = true)
    (ends : ∀ c ∈ rest.head?, inRun c = false) :
    (run ++ rest).takeWhile inRun = run ∧ (run ++ rest).dropWhile inRun = rest := by
  rw [List.takeWhile_append_of_pos within, List.dropWhile_append_of_pos within]
  cases rest with
  | nil => simp
  | cons c rest => simp [ends c rfl]

theorem digits_then_iff (follows : Text → Bool)
    (ends : ∀ rest, follows rest = true → ∀ c ∈ rest.head?, c.isDigit = false) (text : Text) :
    (!(text.takeWhile Char.isDigit).isEmpty && follows (text.dropWhile Char.isDigit)) = true ↔
      ∃ digits rest, IsRunOf decimalDigits digits ∧ follows rest = true ∧
        text = digits ++ rest := by
  simp only [Bool.and_eq_true, Bool.not_eq_true', List.isEmpty_eq_false_iff]
  constructor
  · rintro ⟨filled, goesOn⟩
    refine ⟨_, _, ⟨filled, ?_⟩, goesOn, List.takeWhile_append_dropWhile.symm⟩
    intro c inside
    simpa [isDigit_eq] using List.all_eq_true.mp List.all_takeWhile c inside
  · rintro ⟨digits, rest, ⟨filled, run⟩, goesOn, rfl⟩
    have within : ∀ c ∈ digits, c.isDigit = true := by simpa [isDigit_eq] using run
    obtain ⟨taken, dropped⟩ := takeWhile_run Char.isDigit digits rest within (ends rest goesOn)
    rw [taken, dropped]
    exact ⟨filled, goesOn⟩

theorem isFloatSuffix_iff (text : Text) :
    text.isFloatSuffix = true ↔ text ∈ [[], ['f'], ['F']] := by
  unfold isFloatSuffix
  split
  next => simp
  next c => simp
  next empty single => simpa using ⟨empty, single 'f', single 'F'⟩

theorem not_isDigit_of_isFloatSuffix (text : Text) (suffix : text.isFloatSuffix = true) :
    ∀ c ∈ text.head?, c.isDigit = false := by
  have listed := (isFloatSuffix_iff text).mp suffix
  simp only [List.mem_cons, List.not_mem_nil, or_false] at listed
  rcases listed with rfl | rfl | rfl
  · simp
  · simp
  · simp

theorem isFractionTail_iff (text : Text) :
    text.isFractionTail = true ↔
      ∃ digits suffix, IsRunOf decimalDigits digits ∧ suffix ∈ [[], ['f'], ['F']] ∧
        text = '.' :: digits ++ suffix := by
  unfold isFractionTail
  split
  next rest =>
    rw [digits_then_iff isFloatSuffix not_isDigit_of_isFloatSuffix]
    simp only [isFloatSuffix_iff, List.cons_append, List.cons.injEq, true_and]
  next pointless =>
    constructor
    · simp
    · rintro ⟨digits, suffix, -, -, rfl⟩
      exact absurd rfl (pointless _)

theorem isDecimal_iff (text : Text) :
    text.isDecimal true = true ↔
      ∃ whole fraction suffix, IsRunOf decimalDigits whole ∧ fraction.IsFraction ∧
        suffix ∈ [[], ['f'], ['F']] ∧ text = whole ++ fraction ++ suffix := by
  let follows (rest : Text) : Bool := rest.isFloatSuffix || rest.isFractionTail
  have ends (rest : Text) (goesOn : follows rest = true) : ∀ c ∈ rest.head?, c.isDigit = false := by
    rcases Bool.or_eq_true_iff.mp goesOn with suffix | fraction
    · exact not_isDigit_of_isFloatSuffix rest suffix
    · obtain ⟨digits, suffix, -, -, rfl⟩ := (isFractionTail_iff rest).mp fraction
      simp
  have split := digits_then_iff follows ends text
  simp only [isDecimal, Bool.true_and]
  rw [split]
  simp only [follows, Bool.or_eq_true, isFloatSuffix_iff, isFractionTail_iff]
  constructor
  · rintro ⟨whole, rest, run, suffixed | ⟨digits, suffix, fraction, suffixed, rfl⟩, rfl⟩
    · exact ⟨whole, [], rest, run, .inl rfl, suffixed, by simp⟩
    · exact ⟨whole, '.' :: digits, suffix, run, .inr ⟨digits, fraction, rfl⟩, suffixed, by simp⟩
  · rintro ⟨whole, fraction, suffix, run, rfl | ⟨digits, fractional, rfl⟩, suffixed, rfl⟩
    · exact ⟨whole, suffix, run, .inl suffixed, by simp⟩
    · exact ⟨whole, '.' :: digits ++ suffix, run,
        .inr ⟨digits, suffix, fractional, suffixed, rfl⟩, by simp⟩

theorem isRadix_iff (text : Text) :
    text.isRadix = true ↔
      ∃ marks chars mark digits, (marks, chars) ∈ radixes ∧ mark ∈ marks ∧
        IsRunOf chars digits ∧ text = '0' :: mark :: digits := by
  have hex (digits : Text) := isNonemptyRun_eq_true_iff isHexDigit hexDigits isHexDigit_eq digits
  have octal (digits : Text) :=
    isNonemptyRun_eq_true_iff isOctalDigit octalDigits isOctalDigit_eq digits
  have binary (digits : Text) :=
    isNonemptyRun_eq_true_iff isBinaryDigit binaryDigits isBinaryDigit_eq digits
  constructor
  · intro radix
    unfold isRadix at radix
    split at radix
    next mark digits =>
      split at radix
      next marked =>
        exact ⟨['x', 'X'], hexDigits, mark, digits, by simp [radixes], by simpa using marked,
          (hex digits).mp radix, rfl⟩
      next =>
      split at radix
      next marked =>
        exact ⟨['o', 'O'], octalDigits, mark, digits, by simp [radixes], by simpa using marked,
          (octal digits).mp radix, rfl⟩
      next =>
      split at radix
      next marked =>
        exact ⟨['b', 'B'], binaryDigits, mark, digits, by simp [radixes], by simpa using marked,
          (binary digits).mp radix, rfl⟩
      next => contradiction
    next => contradiction
  · rintro ⟨marks, chars, mark, digits, listed, marked, run, rfl⟩
    simp only [radixes, List.mem_cons, Prod.mk.injEq, List.not_mem_nil, or_false] at listed
    rcases listed with ⟨rfl, rfl⟩ | ⟨rfl, rfl⟩ | ⟨rfl, rfl⟩
    · rcases List.mem_pair.mp marked with rfl | rfl <;> simpa [isRadix, hex] using run
    · rcases List.mem_pair.mp marked with rfl | rfl <;> simpa [isRadix, octal] using run
    · rcases List.mem_pair.mp marked with rfl | rfl <;> simpa [isRadix, binary] using run

theorem isNumber_iff (text : Text) : text.isNumber true = true ↔ text.IsNumeral := by
  rw [isNumber, Bool.or_eq_true, isDecimal_iff, isRadix_iff]
  constructor
  · rintro (⟨whole, fraction, suffix, run, fractional, suffixed, rfl⟩ |
      ⟨marks, chars, mark, digits, listed, marked, run, rfl⟩)
    · exact .decimal whole fraction suffix run fractional suffixed
    · exact .radix marks chars mark digits listed marked run
  · intro numeral
    cases numeral with
    | decimal whole fraction suffix run fractional suffixed =>
      exact .inl ⟨whole, fraction, suffix, run, fractional, suffixed, rfl⟩
    | radix marks chars mark digits listed marked run =>
      exact .inr ⟨marks, chars, mark, digits, listed, marked, run, rfl⟩

theorem IsNumeral.starts_with_digit {text : Text} (numeral : text.IsNumeral) :
    ∃ c rest, c ∈ decimalDigits ∧ text = c :: rest := by
  cases numeral with
  | decimal whole fraction suffix run =>
    obtain ⟨filled, digits⟩ := run
    cases whole with
    | nil => exact absurd rfl filled
    | cons c whole => exact ⟨c, _, digits c List.mem_cons_self, rfl⟩
  | radix => exact ⟨'0', _, by decide, rfl⟩

end Text

namespace Grammar

variable (text : Text)

theorem head_of_isOperator (operator : standard.isOperator text = true) :
    ∀ c ∈ text.head?, c ∉ decimalDigits ∧ Text.isIdentifierStart c = false := by
  have all : ∀ c ∈ standard.operators, c ∉ decimalDigits ∧ Text.isIdentifierStart c = false :=
    forall_mem_of_all _ (by decide)
  obtain ⟨c, listed, rfl⟩ := (isOneOf_iff standard.operators text).mp operator
  simpa using all c listed

theorem head_of_isIdentifier (identifier : text.isIdentifier = true) :
    ∃ c rest, c ∉ decimalDigits ∧ Text.isIdentifierStart c = true ∧ text = c :: rest := by
  have all : ∀ c ∈ decimalDigits, Text.isIdentifierStart c = false :=
    forall_mem_of_all _ (by decide)
  cases text with
  | nil => simp [Text.isIdentifier] at identifier
  | cons c rest =>
    have start : Text.isIdentifierStart c = true := by
      simp only [Text.isIdentifier, Bool.and_eq_true] at identifier
      exact identifier.1
    refine ⟨c, rest, ?_, start, rfl⟩
    intro digit
    simp [all c digit] at start

theorem isNumber_iff_isNumeral_apart (word : Text) :
    (standard.isNumber word = true ↔ word.IsNumeral) ∧
      ¬ (standard.isNumber word = true ∧ standard.isOperator word = true) ∧
      ¬ (standard.isNumber word = true ∧ word.isIdentifier = true) ∧
      ¬ (standard.isOperator word = true ∧ word.isIdentifier = true) ∧
      (word.isDelimiter = true → standard.isOperator word = true) := by
  have numbers : standard.isNumber word = true ↔ word.IsNumeral := word.isNumber_iff
  refine ⟨numbers, ?_, ?_, ?_, ?_⟩
  · rintro ⟨number, operator⟩
    obtain ⟨c, rest, digit, rfl⟩ := (numbers.mp number).starts_with_digit
    exact (head_of_isOperator _ operator c rfl).1 digit
  · rintro ⟨number, identifier⟩
    obtain ⟨c, rest, digit, rfl⟩ := (numbers.mp number).starts_with_digit
    obtain ⟨d, rest', other, -, same⟩ := head_of_isIdentifier _ identifier
    exact other ((List.cons.inj same).1 ▸ digit)
  · rintro ⟨operator, identifier⟩
    obtain ⟨c, rest, -, start, rfl⟩ := head_of_isIdentifier word identifier
    simp [(head_of_isOperator _ operator c rfl).2] at start
  · intro delimiter
    simp [isOperator_standard, delimiter]

example : ["0".toList, "0f".toList, "0b1".toList, "0xF".toList, "1.5F".toList].all
      standard.isNumber = true ∧
    ["\u0663".toList, "1\n".toList, "0x".toList, "0b2".toList, "1.".toList, "1.f".toList].any
      standard.isNumber = false := by
  decide

end Grammar

end LineLexer
