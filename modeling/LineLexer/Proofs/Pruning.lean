import LineLexer.Proofs.KeywordSearch
import LineLexer.Proofs.Rescan
import LineLexer.Proofs.WordDecomposition

set_option autoImplicit false

namespace LineLexer

-- In a list where the first entry that holds is chosen, a test matters only where no entry before
-- its own holds.
theorem find?_congr_reached {A : Type} [DecidableEq A] (holds holds' : A → Bool) (entries : List A)
    (agree : ∀ entry ∈ entries,
      (∀ earlier ∈ entries.takeWhile (· != entry), holds earlier = false) →
        holds' entry = holds entry) :
    entries.find? holds' = entries.find? holds := by
  induction entries with
  | nil => rfl
  | cons entry rest ih =>
    have first : holds' entry = holds entry := agree entry List.mem_cons_self (by simp)
    cases held : holds entry with
    | true => simp [first, held]
    | false =>
      have later : rest.find? holds' = rest.find? holds := by
        apply ih
        intro other member passed
        apply agree other (List.mem_cons_of_mem entry member)
        intro earlier before
        rw [List.takeWhile_cons] at before
        split at before
        next =>
          rcases List.mem_cons.mp before with rfl | before
          · exact held
          · exact passed earlier before
        next => simp at before
      simp [first, held, later]

namespace Grammar

def Reaches (grammar : Grammar) (state : State) (text : Text) (rule : Rule) : Prop :=
  ∀ earlier ∈ grammar.rules.takeWhile (· != rule), grammar.applies state text earlier = false

-- A grammar may lose rules that apply nowhere that they are reached, and tests may change where
-- their rules are not reached.
theorem ruleFor_filter (whole part : Grammar) (keep : Rule → Bool)
    (kept : part.rules = whole.rules.filter keep) (state : State) (text : Text)
    (agree : ∀ rule ∈ whole.rules, whole.Reaches state text rule →
      (keep rule && part.applies state text rule) = whole.applies state text rule) :
    part.ruleFor state text = whole.ruleFor state text := by
  have chosen := find?_congr_reached (whole.applies state text) _ whole.rules agree
  simpa [ruleFor, kept, List.find?_filter] using congrArg (·.getD .unknown) chosen

def pruned : Grammar where
  operators := "+-*/%=<>!&|".toList
  fractions := false
  keywords := standardKeywords.erase compound
  rules := standard.rules.filter (· != .directiveShape)

end Grammar

namespace Text

def IsShaped (text : Text) : Prop :=
  text.isDelimiter = true ∨ text.isNonemptyRun isRunChar = true

theorem shaped_of_mem_sourceWords (source : Text) (word : Word)
    (member : word ∈ source.sourceWords) : word.text.IsShaped := by
  obtain ⟨index, line, -, found⟩ := source.mem_sourceWords_line word member
  exact (line.splitsInto_words _).shaped word found

theorem IsShaped.eq_of_delimiter {text : Text} (shaped : text.IsShaped) (c : Char)
    (listed : c ∈ delimiters) (inside : c ∈ text) : text = [c] := by
  rcases shaped with delimiter | run
  · obtain ⟨d, -, rfl⟩ := (isDelimiter_iff text).mp delimiter
    simp [List.mem_singleton.mp inside]
  · have within := ((isNonemptyRun_iff isRunChar text).mp run).2 c inside
    simp [isRunChar_of_delimiter c listed] at within

theorem point_mem_of_isFractionTail (tail : Text) (fraction : tail.isFractionTail = true) :
    '.' ∈ tail := by
  unfold isFractionTail at fraction
  split at fraction
  next rest => exact List.mem_cons_self
  next => contradiction

theorem IsShaped.point_not_mem {text : Text} (shaped : text.IsShaped)
    (number : text.isNumber true = true) : '.' ∉ text := by
  intro inside
  obtain rfl := shaped.eq_of_delimiter '.' (by decide) inside
  revert number
  decide

theorem IsShaped.isNumber_eq {text : Text} (shaped : text.IsShaped) :
    text.isNumber false = text.isNumber true := by
  cases fraction : isFractionTail (text.dropWhile Char.isDigit) with
  | true =>
    have inside := (List.dropWhile_suffix _).subset (point_mem_of_isFractionTail _ fraction)
    obtain rfl := shaped.eq_of_delimiter '.' (by decide) inside
    rfl
  | false => simp [isNumber, isDecimal, fraction]

end Text

namespace Grammar

variable (state : State) (text : Text)

theorem isReserved_pruned : pruned.isReserved text = standard.isReserved text :=
  text.hasKeyword_erase_pair standardKeywords plainlyLed_standardKeywords _ _

theorem mem_operators_iff (c : Char) :
    c ∈ standard.operators ↔ c ∈ pruned.operators ∨ c ∈ delimiters := by
  have reordered : standard.operators.Perm (pruned.operators ++ delimiters) := by decide
  exact reordered.mem_iff.trans List.mem_append

theorem isOperator_standard :
    standard.isOperator text = (pruned.isOperator text || text.isDelimiter) := by
  rw [Bool.eq_iff_iff, Bool.or_eq_true]
  simp only [isOperator, isOneOf_iff, isDelimiter_iff, mem_operators_iff, or_and_right, exists_or]

theorem ruleFor_pruned (shaped : text.IsShaped) :
    pruned.ruleFor state text = standard.ruleFor state text := by
  apply ruleFor_filter standard pruned (· != .directiveShape) rfl
  intro rule listed reached
  cases rule with
  | directiveShape =>
    have notHead : text.opensDirective = false := reached .directiveHead (by decide)
    simp [applies, text.isDirective_eq_false notHead]
  | number => exact shaped.isNumber_eq
  | operator =>
    have notDelimiter : text.isDelimiter = false := reached .delimiter (by decide)
    simp [applies, isOperator_standard, notDelimiter]
  | reserved => exact isReserved_pruned text
  | _ => rfl

end Grammar

structure Token.IsPlain (token : Token) : Prop where
  operator : token.kind = .operator → ∃ c ∈ "+-*/%=<>!&|".toList, token.value = [c]
  delimiter : token.kind = .delimiter → ∃ c ∈ delimiters, token.value = [c]
  number : token.kind = .number → '.' ∉ token.value

theorem Grammar.isPlain_of_mark (word : Word) (shaped : word.text.IsShaped) (kind : Kind)
    (shape : standard.mark? word.text = some kind) : (word.token kind).IsPlain := by
  unfold mark? at shape
  split at shape
  next delimiter =>
    obtain rfl := Option.some.inj shape
    exact ⟨by simp, fun _ => (isDelimiter_iff word.text).mp delimiter, by simp⟩
  next notDelimiter =>
  split at shape
  next number =>
    obtain rfl := Option.some.inj shape
    exact ⟨by simp, by simp, fun _ => shaped.point_not_mem number⟩
  next =>
  split at shape
  next operator =>
    obtain rfl := Option.some.inj shape
    rw [isOperator_standard, Bool.or_eq_true] at operator
    have narrow := operator.resolve_right notDelimiter
    exact ⟨fun _ => (isOneOf_iff _ word.text).mp narrow, by simp, by simp⟩
  next => contradiction

namespace Context

variable (context : Context)

theorem classify_pruned (word : Word) (shaped : word.text.IsShaped) :
    context.classify .pruned word = context.classify .standard word := by
  simp only [classify, Grammar.ruleFor_pruned context.state word.text shaped]

example :
    let word := Word.startingAt { line := 1, column := 1 } "3.14".toList
    (classify .pruned {} word).token ≠ (classify .standard {} word).token := by
  decide +kernel

theorem isPlain_of_token (word : Word) (shaped : word.text.IsShaped) (token : Token)
    (emitted : (context.classify .standard word).token = some token) : token.IsPlain := by
  have way := context.classified word
  generalize context.classify .standard word = effect at way emitted
  cases way with
  | literalPart | literalHead => simp at emitted
  | mark kind left shape =>
    obtain rfl := Option.some.inj emitted
    exact Grammar.isPlain_of_mark word shaped kind shape
  | _ =>
    obtain rfl := Option.some.inj emitted
    constructor <;> simp

theorem run_congr (grammar other : Grammar) (room : Option Nat) (events : List Event)
    (alike : ∀ word ∈ events.filterMap Event.word?, ∀ context : Context,
      context.classify other word = context.classify grammar word) :
    context.run other room events = context.run grammar room events := by
  induction events generalizing room context with
  | nil => rfl
  | cons event rest ih =>
    cases event with
    | line => exact ih context.newLine room alike
    | word word =>
      simp only [List.filterMap_cons, Event.word?, List.forall_mem_cons] at alike
      simp only [run, alike.1, ih _ _ alike.2]

theorem forall_run_tokens (room : Option Nat) (events : List Event) (Holds : Token → Prop)
    (each : ∀ word ∈ events.filterMap Event.word?, ∀ (context : Context) (token : Token),
      (context.classify .standard word).token = some token → Holds token) :
    ∀ token ∈ (context.run .standard room events).tokens, Holds token := by
  induction events generalizing room context with
  | nil => simp
  | cons event rest ih =>
    cases event with
    | line => exact ih context.newLine room each
    | word word =>
      simp only [List.filterMap_cons, Event.word?, List.forall_mem_cons] at each
      intro token member
      rcases context.run_word_cases .standard room word rest with
        ⟨refused, -, run⟩ | ⟨left, run⟩
      · simp [run, Run.stopped] at member
      · rw [run] at member
        rcases List.mem_append.mp member with here | later
        · exact each.1 context token (Option.mem_toList.mp here)
        · exact ih _ left each.2 token later

end Context

namespace Scanner

def pruned (scanner : Scanner) : Scanner :=
  { scanner with grammar := .pruned }

variable (scanner : Scanner) (standard : scanner.grammar = .standard)

include standard

theorem scan_pruned :
    scanner.pruned.scan = (scanner.scan.1.pruned, scanner.scan.2) := by
  have same : scanner.pruned.source.inputError? = scanner.source.inputError? := rfl
  simp only [scan, same]
  cases scanner.source.inputError? with
  | some error => rfl
  | none =>
    have run : scanner.context.run .pruned scanner.room scanner.source.events =
        scanner.context.run scanner.grammar scanner.room scanner.source.events := by
      rw [standard]
      apply Context.run_congr
      intro word member context
      rw [scanner.source.words_events] at member
      exact context.classify_pruned word (scanner.source.shaped_of_mem_sourceWords word member)
    exact congrArg (fun run => (scanner.pruned.absorb run, run.refused.map Halt.refused)) run

theorem rescanned_pruned (count : Nat) :
    scanner.pruned.rescanned count = (scanner.rescanned count).pruned := by
  induction count with
  | zero => rfl
  | succ count ih =>
    have kept : (scanner.rescanned count).grammar = .standard :=
      scanner.rescanned_induction standard (fun before same => before.scan_keeps.2.trans same) count
    rw [rescanned, ih, scan_pruned _ kept, rescanned]

omit standard

structure IsPlain : Prop where
  standard : scanner.grammar = .standard
  tokens : ∀ token ∈ scanner.tokens, token.IsPlain

variable {scanner}

theorem IsPlain.scan (plain : scanner.IsPlain) : scanner.scan.1.IsPlain where
  standard := scanner.scan_keeps.2.trans plain.standard
  tokens := by
    unfold Scanner.scan
    cases scanner.source.inputError? with
    | some error => exact plain.tokens
    | none =>
      intro token member
      rcases List.mem_append.mp member with earlier | added
      · exact plain.tokens token earlier
      · rw [plain.standard] at added
        refine Context.forall_run_tokens _ _ scanner.source.events _ ?_ token added
        intro word found context token emitted
        rw [scanner.source.words_events] at found
        exact context.isPlain_of_token word
          (scanner.source.shaped_of_mem_sourceWords word found) token emitted

theorem scan_without_unreached_parts (source file : Text) (sink : Option Sink) (count : Nat) :
    let whole := (fresh source file sink).rescanned count
    let part := (fresh source file sink).pruned.rescanned count
    part.scan = ({ whole.scan.1 with grammar := .pruned }, whole.scan.2) ∧
      ∀ token ∈ whole.scan.1.tokens, token.IsPlain := by
  intro whole part
  have plain : whole.IsPlain :=
    rescanned_induction _ ⟨rfl, by simp [fresh]⟩ (fun _ => IsPlain.scan) count
  have same : part = whole.pruned := rescanned_pruned _ rfl count
  rw [same]
  exact ⟨whole.scan_pruned plain.standard, plain.scan.tokens⟩

theorem scan_of_fraction_without_unreached_parts :
    let whole := fresh "int x = 3.14f + #( y".toList defaultFile none
    let number : Token :=
      { value := "14f".toList, kind := .number,
        span := { start := { line := 1, column := 11 }, stop := { line := 1, column := 14 } } }
    whole.pruned.scan = ({ whole.scan.1 with grammar := .pruned }, none) ∧
      number ∈ whole.scan.1.tokens ∧ number.kind = .number ∧ '.' ∉ number.value := by
  intro whole number
  obtain ⟨same, plain⟩ :=
    scan_without_unreached_parts "int x = 3.14f + #( y".toList defaultFile none 0
  have completed : whole.scan.2 = none := by decide +kernel
  have member : number ∈ whole.scan.1.tokens := by decide +kernel
  have kind : number.kind = .number := rfl
  refine ⟨?_, member, kind, (plain number member).number kind⟩
  rw [← completed]
  exact same

end Scanner

end LineLexer
