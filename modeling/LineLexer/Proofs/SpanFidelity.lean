import LineLexer.Proofs.Accounting
import LineLexer.Proofs.SourceText

set_option autoImplicit false

namespace LineLexer

def Span.keeps (span : Span) (tokens : List Token) (position : Position) : Bool :=
  span.contains position &&
    !tokens.any fun token =>
      token.kind = .directive ∧ token.span.liesIn span ∧ token.span.contains position

def Text.aroundDirectives (source : Text) (tokens : List Token) (span : Span) : Text :=
  (source.located.filter fun located => span.keeps tokens located.1).map Prod.snd

def spelling (seen : List Word) (tokens : List Token) (keep : Word → Bool) : Text :=
  seen.flatMap fun word => if keep word && !word.isDirectiveIn tokens then word.text else []

theorem spelling_congr (seen : List Word) (tokens : List Token) (keep keep' : Word → Bool)
    (same : ∀ word ∈ seen, keep word = keep' word) :
    spelling seen tokens keep = spelling seen tokens keep' := by
  apply List.flatMap_congr
  intro word member
  rw [same word member]

theorem spelling_eq_nil (seen : List Word) (tokens : List Token) (keep : Word → Bool)
    (none : ∀ word ∈ seen, keep word = false) : spelling seen tokens keep = [] := by
  rw [spelling, List.flatMap_eq_nil_iff]
  intro word member
  simp [none word member]

structure Spelled (seen : List Word) (tokens : List Token) (literal : Option OpenLiteral) :
    Prop where
  starts : ∀ token ∈ tokens, ∃ word ∈ seen, token.span.start = word.span.start
  own : ∀ token ∈ tokens, token.kind ≠ .string →
    ∃ word ∈ seen, token.span = word.span ∧ token.value = word.text
  strings : ∀ token ∈ tokens, token.kind = .string →
    token.value = spelling seen tokens fun word => token.encloses word
  literal : ∀ opened ∈ literal,
    opened.parts.flatten = spelling seen tokens fun word => opened.covers word

variable {seen : List Word} {tokens : List Token} {literal : Option OpenLiteral} {word : Word}

namespace Accounted

variable (accounted : Accounted seen tokens literal) (follows : word.Follows seen)

include accounted follows

theorem spelling_append (token? : Option Token)
    (ends : ∀ token ∈ token?, token.span.stop = word.span.stop) (keep : Word → Bool) :
    spelling (seen ++ [word]) (tokens ++ token?.toList) keep =
      spelling seen tokens keep ++
        if keep word && !word.isDirectiveIn token?.toList then word.text else [] := by
  have earlier : spelling seen (tokens ++ token?.toList) keep = spelling seen tokens keep := by
    apply List.flatMap_congr
    intro other member
    rw [follows.isDirectiveIn_append token? ends other member]
  rw [← earlier]
  simp [spelling, accounted.isDirectiveIn_next follows]

omit follows in
theorem opening_start :
    ∃ first ∈ seen ++ [word], (literal.getD word.opening).start = first.span.start := by
  cases found : literal with
  | none => exact ⟨word, by simp, rfl⟩
  | some opened =>
    obtain ⟨first, member, same⟩ := accounted.starts opened found
    exact ⟨first, List.mem_append_left _ member, same⟩

-- What has been gathered so far in the literal that the next word goes on with or begins.
theorem spelling_opening (spelled : Spelled seen tokens literal) :
    (literal.getD word.opening).parts.flatten =
      spelling seen tokens fun other => (literal.getD word.opening).covers other := by
  cases found : literal with
  | some opened => exact spelled.literal opened found
  | none =>
    have outside (other : Word) (member : other ∈ seen) : word.opening.covers other = false := by
      have counted := accounted.covers_getD follows other member
      simpa [found, List.countP_cons] using counted
    rw [Option.getD_none, spelling_eq_nil seen tokens _ outside]
    rfl

end Accounted

namespace Spelled

variable (spelled : Spelled seen tokens literal) (accounted : Accounted seen tokens literal)
  (follows : word.Follows seen)

include spelled accounted follows

theorem strings_kept (token? : Option Token)
    (ends : ∀ token ∈ token?, token.span.stop = word.span.stop) (token : Token)
    (member : token ∈ tokens) (string : token.kind = .string) :
    token.value =
      spelling (seen ++ [word]) (tokens ++ token?.toList) fun other => token.encloses other := by
  have past : token.encloses word = false := by
    have bound := accounted.stop_lt follows token member
    simp only [Token.encloses, decide_eq_false_iff_not, not_and]
    intro _ _ around
    exact lt_irrefl _ (lt_of_lt_of_le bound around)
  rw [accounted.spelling_append follows token? ends, past]
  simpa using spelled.strings token member string

theorem append (token? : Option Token) (literal' : Option OpenLiteral)
    (ends : ∀ token ∈ token?, token.span.stop = word.span.stop)
    (starts : ∀ token ∈ token?, ∃ first ∈ seen ++ [word], token.span.start = first.span.start)
    (own : ∀ token ∈ token?, token.kind ≠ .string →
      token.span = word.span ∧ token.value = word.text)
    (strings : ∀ token ∈ token?, token.kind = .string → token.value =
      spelling (seen ++ [word]) (tokens ++ token?.toList) fun other => token.encloses other)
    (opened : ∀ opened ∈ literal', opened.parts.flatten =
      spelling (seen ++ [word]) (tokens ++ token?.toList) fun other => opened.covers other) :
    Spelled (seen ++ [word]) (tokens ++ token?.toList) literal' where
  starts token member := by
    rcases List.mem_append.mp member with earlier | last
    · obtain ⟨other, found, same⟩ := spelled.starts token earlier
      exact ⟨other, List.mem_append_left _ found, same⟩
    · exact starts token (Option.mem_toList.mp last)
  own token member plain := by
    rcases List.mem_append.mp member with earlier | last
    · obtain ⟨other, found, same⟩ := spelled.own token earlier plain
      exact ⟨other, List.mem_append_left _ found, same⟩
    · exact ⟨word, by simp, own token (Option.mem_toList.mp last) plain⟩
  strings token member string := by
    rcases List.mem_append.mp member with earlier | last
    · exact spelled.strings_kept accounted follows token? ends token earlier string
    · exact strings token (Option.mem_toList.mp last) string
  literal := opened

theorem step (token? : Option Token) (literal' : Option OpenLiteral)
    (placed : Placed word literal token? literal') :
    Spelled (seen ++ [word]) (tokens ++ token?.toList) literal' := by
  have covered := accounted.covers_next follows
  have gathered : ((literal.getD word.opening).extend word.text).parts.flatten =
      (spelling seen tokens fun other => (literal.getD word.opening).covers other) ++
        word.text := by
    rw [← accounted.spelling_opening follows spelled]
    simp [OpenLiteral.extend]
  cases placed with
  | directive literal =>
    refine spelled.append accounted follows _ _ (by simp) (by simp) (by simp) (by simp) ?_
    intro opened found
    rw [accounted.spelling_append follows _ (by simp)]
    simpa [Word.isDirectiveIn] using spelled.literal opened found
  | own kind notDirective notString =>
    apply spelled.append accounted follows <;> simp [notString]
  | added literal =>
    refine spelled.append accounted follows _ _ (by simp) (by simp) (by simp) (by simp) ?_
    rintro opened ⟨⟩
    rw [accounted.spelling_append follows _ (by simp), gathered]
    simp [covered, Word.isDirectiveIn]
  | closed literal =>
    have inside : spelling seen tokens (fun other => (literal.getD word.opening).covers other &&
        other.span.stop ≤ word.span.stop) =
        spelling seen tokens fun other => (literal.getD word.opening).covers other := by
      apply spelling_congr
      intro other member
      simp [le_of_lt (follows.stop_lt other member)]
    refine spelled.append accounted follows _ _ (by simp [OpenLiteral.close]) ?_ (by simp) ?_
      (by simp)
    · rintro token ⟨⟩
      exact accounted.opening_start
    · rintro token ⟨⟩ string
      rw [accounted.spelling_append follows _ (by simp [OpenLiteral.close])]
      refine Eq.trans gathered ?_
      simp [covered, Word.isDirectiveIn, inside]

end Spelled

section Reading

variable {source : Text} (begun : seen <+: source.sourceWords)
  (spelled : Spelled seen tokens literal)

include begun spelled

-- A directive is a word, so a place in it is in no other word.
theorem directive_at_eq (span : Span) (word : Word) (member : word ∈ source.sourceWords)
    (inside : word.span.liesIn span = true) (position : Position)
    (here : word.span.contains position = true) :
    (tokens.any fun token =>
      token.kind = .directive ∧ token.span.liesIn span ∧ token.span.contains position) =
      word.isDirectiveIn tokens := by
  rw [Bool.eq_iff_iff, Word.isDirectiveIn, List.any_eq_true, List.any_eq_true]
  constructor
  · rintro ⟨token, found, holds⟩
    obtain ⟨directive, -, around⟩ := of_decide_eq_true holds
    obtain ⟨other, read, same, -⟩ := spelled.own token found (by simp [directive])
    rw [same] at around
    obtain rfl := source.eq_of_contains word other member (begun.mem read) position here around
    exact ⟨token, found, by simp [directive, same]⟩
  · rintro ⟨token, found, holds⟩
    obtain ⟨directive, same⟩ := of_decide_eq_true holds
    exact ⟨token, found, by simp [directive, same, inside, here]⟩

variable (accounted : Accounted seen tokens literal)

include accounted

theorem keeps_word (token : Token) (read : token ∈ tokens) (string : token.kind = .string)
    (word : Word) (member : word ∈ source.sourceWords) (position : Position)
    (here : word.span.contains position = true) :
    token.span.keeps tokens position = (token.encloses word && !word.isDirectiveIn tokens) := by
  obtain ⟨first, begins, start⟩ := spelled.starts token read
  obtain ⟨last, ends, stop⟩ := accounted.stops token read
  have holds := source.contains_iff_liesIn token.span first last word (begun.mem begins) start
    (begun.mem ends) stop member position here
  have encloses : token.encloses word = word.span.liesIn token.span := by
    simp [Token.encloses, Span.liesIn, string]
  rw [encloses, Span.keeps, Bool.eq_iff_iff.mpr holds]
  cases inside : word.span.liesIn token.span with
  | false => rfl
  | true => rw [directive_at_eq begun spelled token.span word member inside position here]

theorem aroundDirectives_string (token : Token) (read : token ∈ tokens)
    (string : token.kind = .string) :
    (source.aroundDirectives tokens token.span).filter (fun c => !isBlank c) = token.value := by
  rw [Text.aroundDirectives, source.filter_located_words _ _
    (keeps_word begun spelled accounted token read string), spelled.strings token read string]
  obtain ⟨rest, whole⟩ := begun
  have past : ∀ word ∈ rest, token.encloses word = false := by
    intro word later
    obtain ⟨last, ends, stop⟩ := accounted.stops token read
    have ordered := source.sourceWords_pairwise
    rw [← whole] at ordered
    have bound := (List.pairwise_append.mp ordered).2.2 last ends word later
    have width := source.start_lt_stop_of_mem_sourceWords word
      (whole ▸ List.mem_append_right seen later)
    simp only [Token.encloses, decide_eq_false_iff_not, not_and, stop]
    intro _ _ around
    exact lt_irrefl _ (lt_of_lt_of_le width (le_trans around bound))
  rw [← whole, List.flatMap_append]
  have nothing := spelling_eq_nil rest tokens _ past
  rw [spelling] at nothing
  rw [nothing, List.append_nil]
  rfl

end Reading

theorem Context.run_diagnostics_of_words (room : Option Nat) (context : Context)
    (events : List Event) :
    ∀ diagnostic ∈ (context.run .standard room events).diagnostics,
      ∃ word ∈ events.filterMap Event.word?, ∃ problem, diagnostic = word.diagnostic problem := by
  induction events generalizing room context with
  | nil => simp
  | cons event rest ih =>
    cases event with
    | line => exact ih room context.newLine
    | word word =>
      simp only [List.filterMap_cons, Event.word?, List.exists_mem_cons_iff]
      intro diagnostic member
      rcases context.run_word_cases .standard room word rest with
        ⟨refused, found, run⟩ | ⟨left, run⟩
      · rw [run] at member
        obtain rfl : diagnostic = refused := by simpa [Run.stopped] using member
        exact .inl (context.of_diagnostic word diagnostic found).2.2
      · rw [run] at member
        rcases List.mem_append.mp member with here | later
        · exact .inl (context.of_diagnostic word diagnostic (Option.mem_toList.mp here)).2.2
        · exact .inr (ih left _ diagnostic later)

theorem Scanner.scan_spans_show_source (source file : Text) (sink : Option Sink)
    (nonempty : source ≠ []) (nulFree : '\x00' ∉ source) :
    let scanned := (fresh source file sink).scan
    (∀ error, scanned.2 ≠ some (.rejected error)) ∧
      (∀ token ∈ scanned.1.tokens,
        source.HasPosition token.span.start ∧ source.HasPosition token.span.stop) ∧
      (∀ token ∈ scanned.1.tokens, token.kind ≠ .string → source.Shows token.span token.value) ∧
      (∀ token ∈ scanned.1.tokens, token.kind = .string →
        (source.aroundDirectives scanned.1.tokens token.span).filter (fun c => !isBlank c) =
          token.value) ∧
      ∀ diagnostic ∈ scanned.1.diagnostics,
        source.HasPosition diagnostic.span.start ∧ source.HasPosition diagnostic.span.stop ∧
          source.Shows diagnostic.span diagnostic.word := by
  have start : Spelled [] [] none := by constructor <;> simp
  obtain ⟨read, begun, accounted, spelled⟩ := scan_accounted Spelled source file sink nonempty
    nulFree start fun _ _ _ _ token? literal' accounted spelled follows placed =>
      spelled.step accounted follows token? literal' placed
  refine ⟨scan_fresh_not_rejected source file sink nonempty nulFree, ?_, ?_, ?_, ?_⟩
  · intro token member
    obtain ⟨first, begins, start⟩ := spelled.starts token member
    obtain ⟨last, ends, stop⟩ := accounted.stops token member
    rw [start, stop]
    exact ⟨(source.positions_of_mem first (begun.mem begins)).1,
      (source.positions_of_mem last (begun.mem ends)).2.1⟩
  · intro token member plain
    obtain ⟨word, found, span, value⟩ := spelled.own token member plain
    rw [span, value]
    exact (source.positions_of_mem word (begun.mem found)).2.2
  · intro token member string
    exact aroundDirectives_string begun spelled accounted token member string
  · intro diagnostic member
    rw [scan_fresh_eq_feed source file sink nonempty nulFree] at member
    obtain ⟨word, found, problem, rfl⟩ := Context.run_diagnostics_of_words
      (fresh source file sink).room {} source.events diagnostic member
    exact source.positions_of_mem word (source.words_events ▸ found)

theorem Scanner.scan_string_around_directives_shown :
    let source : Text := "int \"a #b c\n d\" x".toList
    let scanned := (fresh source defaultFile (some {})).scan
    let string : Token :=
      { value := "\"ad\"".toList, kind := .string,
        span := { start := { line := 1, column := 5 }, stop := { line := 2, column := 4 } } }
    string ∈ scanned.1.tokens ∧
      (source.aroundDirectives scanned.1.tokens string.span).filter (fun c => !isBlank c) =
        string.value := by
  have member : Token.mk "\"ad\"".toList .string ⟨⟨1, 5⟩, ⟨2, 4⟩⟩ ∈
      (fresh "int \"a #b c\n d\" x".toList defaultFile (some {})).scan.1.tokens := by
    decide +kernel
  have faithful := scan_spans_show_source "int \"a #b c\n d\" x".toList defaultFile (some {})
    (by decide) (by decide)
  exact ⟨member, faithful.2.2.2.1 _ member rfl⟩

end LineLexer
