import LineLexer.Proofs.Placement

set_option autoImplicit false

namespace LineLexer

def Word.isDirectiveIn (tokens : List Token) (word : Word) : Bool :=
  tokens.any fun token => token.kind = .directive ∧ token.span = word.span

def Token.represents (word : Word) (token : Token) : Bool :=
  token.kind ≠ .string ∧ token.span = word.span

def Token.encloses (word : Word) (token : Token) : Bool :=
  token.kind = .string ∧ token.span.start ≤ word.span.start ∧ word.span.stop ≤ token.span.stop

def OpenLiteral.covers (word : Word) (literal : OpenLiteral) : Bool :=
  literal.start ≤ word.span.start

def accounts (tokens : List Token) (literal : Option OpenLiteral) (word : Word) : Nat :=
  tokens.countP (·.represents word) +
    if word.isDirectiveIn tokens then 0
    else tokens.countP (·.encloses word) + literal.toList.countP (·.covers word)

@[simp] theorem OpenLiteral.extend_covers (word : Word) (literal : OpenLiteral) (text : Text) :
    (literal.extend text).covers word = literal.covers word := by
  cases literal
  rfl

@[simp] theorem OpenLiteral.close_represents (word : Word) (literal : OpenLiteral)
    (stop : Position) : (literal.close stop).represents word = false := by
  simp [Token.represents]

@[simp] theorem OpenLiteral.close_encloses (word : Word) (literal : OpenLiteral)
    (stop : Position) :
    (literal.close stop).encloses word = (literal.covers word && word.span.stop ≤ stop) := by
  simp [Token.encloses, OpenLiteral.covers, OpenLiteral.close]

structure Accounted (seen : List Word) (tokens : List Token) (literal : Option OpenLiteral) :
    Prop where
  wide : ∀ word ∈ seen, word.span.start < word.span.stop
  stops : ∀ token ∈ tokens, ∃ word ∈ seen, token.span.stop = word.span.stop
  starts : ∀ opened ∈ literal, ∃ word ∈ seen, opened.start = word.span.start
  directives : (seen.filter (·.isDirectiveIn tokens)).map Word.text =
    (tokens.filter (·.kind = .directive)).map Token.value
  others : (seen.filter (!·.isDirectiveIn tokens)).flatMap Word.text =
    (tokens.filter (·.kind ≠ .directive)).flatMap Token.value ++
      ((literal.map OpenLiteral.parts).getD []).flatten
  once : ∀ word ∈ seen, accounts tokens literal word = 1

variable {seen : List Word} {tokens : List Token} {literal : Option OpenLiteral} {word : Word}

namespace Word.Follows

variable (follows : word.Follows seen)

include follows

-- A token that ends with the word is the token of no earlier word.
theorem span_ne (token : Token) (ends : token.span.stop = word.span.stop) (earlier : Word)
    (member : earlier ∈ seen) : token.span ≠ earlier.span := by
  intro same
  have bound := follows.stop_lt earlier member
  rw [← same, ends] at bound
  exact lt_irrefl _ bound

theorem not_represents (token : Token) (ends : token.span.stop = word.span.stop) (earlier : Word)
    (member : earlier ∈ seen) : token.represents earlier = false := by
  simp [Token.represents, follows.span_ne token ends earlier member]

theorem isDirectiveIn_append (token? : Option Token)
    (ends : ∀ token ∈ token?, token.span.stop = word.span.stop) (earlier : Word)
    (member : earlier ∈ seen) :
    earlier.isDirectiveIn (tokens ++ token?.toList) = earlier.isDirectiveIn tokens := by
  cases token? with
  | none => simp
  | some token =>
    have apart := follows.span_ne token (ends token rfl) earlier member
    simp [Word.isDirectiveIn, apart]

end Word.Follows

namespace Accounted

variable (accounted : Accounted seen tokens literal) (follows : word.Follows seen)

include accounted follows

theorem stop_lt (token : Token) (member : token ∈ tokens) :
    token.span.stop < word.span.stop := by
  obtain ⟨earlier, found, same⟩ := accounted.stops token member
  rw [same]
  exact follows.stop_lt earlier found

theorem next_span_ne (token : Token) (member : token ∈ tokens) : token.span ≠ word.span := by
  intro same
  have earlier := accounted.stop_lt follows token member
  rw [same] at earlier
  exact lt_irrefl _ earlier

theorem isDirectiveIn_next (added : List Token) :
    word.isDirectiveIn (tokens ++ added) = word.isDirectiveIn added := by
  have none : word.isDirectiveIn tokens = false := by
    rw [Word.isDirectiveIn, List.any_eq_false]
    intro token member
    simp [accounted.next_span_ne follows token member]
  simp only [Word.isDirectiveIn, List.any_append] at none ⊢
  rw [none, Bool.false_or]

theorem accounts_next (added : List Token) (literal' : Option OpenLiteral) :
    accounts (tokens ++ added) literal' word = accounts added literal' word := by
  have represented : tokens.countP (·.represents word) = 0 := by
    rw [List.countP_eq_zero]
    intro token member
    simp [Token.represents, accounted.next_span_ne follows token member]
  have enclosed : tokens.countP (·.encloses word) = 0 := by
    rw [List.countP_eq_zero]
    intro token member
    have earlier := accounted.stop_lt follows token member
    simp only [Token.encloses, decide_eq_true_eq, not_and]
    rintro - - around
    exact lt_irrefl _ (lt_of_lt_of_le earlier around)
  simp only [accounts, accounted.isDirectiveIn_next follows, List.countP_append, represented,
    enclosed, Nat.zero_add]

theorem covers_getD (earlier : Word) (member : earlier ∈ seen) :
    [literal.getD word.opening].countP (·.covers earlier) =
      literal.toList.countP (·.covers earlier) := by
  cases literal with
  | some opened => rfl
  | none =>
    have width := accounted.wide earlier member
    have bound := follows.before earlier member
    have later : ¬ word.span.start ≤ earlier.span.start := fun reversed =>
      lt_irrefl _ (lt_of_lt_of_le width (le_trans bound reversed))
    simp [OpenLiteral.covers, Word.opening, later]

theorem covers_next : (literal.getD word.opening).covers word = true := by
  cases opened : literal with
  | none => simp [OpenLiteral.covers, Word.opening]
  | some literal =>
    obtain ⟨earlier, member, same⟩ := accounted.starts literal opened
    have width := accounted.wide earlier member
    have bound := follows.before earlier member
    have order := le_of_lt (lt_of_lt_of_le width bound)
    simpa [OpenLiteral.covers, same] using order

theorem filter_append (token? : Option Token)
    (ends : ∀ token ∈ token?, token.span.stop = word.span.stop) (keep : Bool → Bool) :
    (seen ++ [word]).filter (fun other => keep (other.isDirectiveIn (tokens ++ token?.toList))) =
      seen.filter (fun other => keep (other.isDirectiveIn tokens)) ++
        [word].filter (fun other => keep (other.isDirectiveIn token?.toList)) := by
  rw [List.filter_append]
  congr 1
  · refine List.filter_congr fun earlier member => ?_
    rw [follows.isDirectiveIn_append token? ends earlier member]
  · simp only [List.filter_cons, List.filter_nil, accounted.isDirectiveIn_next follows]

theorem append (token? : Option Token) (literal' : Option OpenLiteral)
    (ends : ∀ token ∈ token?, token.span.stop = word.span.stop)
    (starts : ∀ opened ∈ literal', opened.start = (literal.getD word.opening).start)
    (directives : ([word].filter (·.isDirectiveIn token?.toList)).map Word.text =
      (token?.toList.filter (·.kind = .directive)).map Token.value)
    (others : ((literal.map OpenLiteral.parts).getD []).flatten ++
        ([word].filter (!·.isDirectiveIn token?.toList)).flatMap Word.text =
      (token?.toList.filter (·.kind ≠ .directive)).flatMap Token.value ++
        ((literal'.map OpenLiteral.parts).getD []).flatten)
    (kept : ∀ earlier ∈ seen, token?.toList.countP (·.encloses earlier) +
      literal'.toList.countP (·.covers earlier) = literal.toList.countP (·.covers earlier))
    (once : accounts token?.toList literal' word = 1) :
    Accounted (seen ++ [word]) (tokens ++ token?.toList) literal' where
  wide other member := by
    rcases List.mem_append.mp member with earlier | last
    · exact accounted.wide other earlier
    · rw [List.mem_singleton.mp last]
      exact follows.wide
  stops token member := by
    rcases List.mem_append.mp member with earlier | last
    · obtain ⟨other, found, same⟩ := accounted.stops token earlier
      exact ⟨other, List.mem_append_left _ found, same⟩
    · exact ⟨word, by simp, ends token (Option.mem_toList.mp last)⟩
  starts opened found := by
    rw [starts opened found]
    cases before : literal with
    | none => exact ⟨word, by simp, rfl⟩
    | some literal =>
      obtain ⟨other, earlier, same⟩ := accounted.starts literal before
      exact ⟨other, List.mem_append_left _ earlier, same⟩
  directives := by
    have split := accounted.filter_append follows token? ends id
    simp only [id_eq] at split
    rw [split, List.map_append, accounted.directives, directives, ← List.map_append,
      ← List.filter_append]
  others := by
    rw [accounted.filter_append follows token? ends not, List.flatMap_append, accounted.others,
      List.append_assoc, others, ← List.append_assoc, ← List.flatMap_append, ← List.filter_append]
  once other member := by
    rcases List.mem_append.mp member with earlier | last
    · have represented : token?.toList.countP (·.represents other) = 0 := by
        rw [List.countP_eq_zero]
        intro token found
        simp [follows.not_represents token (ends token (Option.mem_toList.mp found)) other earlier]
      have before := accounted.once other earlier
      rw [accounts, ← kept other earlier] at before
      rw [accounts, follows.isDirectiveIn_append token? ends other earlier, List.countP_append,
        List.countP_append, represented, Nat.add_zero, Nat.add_assoc]
      exact before
    · rw [List.mem_singleton.mp last, accounted.accounts_next follows]
      exact once

theorem step (token? : Option Token) (literal' : Option OpenLiteral)
    (placed : Placed word literal token? literal') :
    Accounted (seen ++ [word]) (tokens ++ token?.toList) literal' := by
  cases placed with
  | directive literal =>
    refine accounted.append follows _ _ (by simp) ?_ ?_ ?_ ?_ ?_
    · intro opened found
      simp [Option.mem_def.mp found]
    · simp [Word.isDirectiveIn]
    · simp [Word.isDirectiveIn]
    · intro earlier member
      simp [Token.encloses]
    · simp [accounts, Word.isDirectiveIn, Token.represents]
  | own kind notDirective notString =>
    refine accounted.append follows _ _ (by simp) (by simp) ?_ ?_ ?_ ?_
    · simp [Word.isDirectiveIn, notDirective]
    · simp [Word.isDirectiveIn, notDirective]
    · intro earlier member
      simp [Token.encloses, notString]
    · simp [accounts, Word.isDirectiveIn, notDirective, Token.represents, Token.encloses, notString]
  | added literal =>
    refine accounted.append follows _ _ (by simp) (by simp [OpenLiteral.extend]) ?_ ?_ ?_ ?_
    · simp [Word.isDirectiveIn]
    · cases literal <;> simp [Word.isDirectiveIn, OpenLiteral.extend, Word.opening]
    · intro earlier member
      simp [← accounted.covers_getD follows earlier member]
    · simp [accounts, Word.isDirectiveIn, accounted.covers_next follows]
  | closed literal =>
    refine accounted.append follows _ _ (by simp [OpenLiteral.close]) (by simp) ?_ ?_ ?_ ?_
    · simp [Word.isDirectiveIn]
    · cases literal <;>
        simp [Word.isDirectiveIn, OpenLiteral.close, OpenLiteral.extend, Word.opening]
    · intro earlier member
      have inside := le_of_lt (follows.stop_lt earlier member)
      simp [inside, ← accounted.covers_getD follows earlier member]
    · simp [accounts, Word.isDirectiveIn, accounted.covers_next follows]

end Accounted

theorem Accounted.placing : Placing Accounted :=
  fun _ _ _ _ token? literal' accounted follows placed =>
    accounted.step follows token? literal' placed

theorem Accounted.run (events : List Event) (seen : List Word) (tokens : List Token)
    (context : Context) (accounted : Accounted seen tokens context.state.literal)
    (ordered : (seen ++ events.filterMap Event.word?).Pairwise fun first second =>
      first.span.stop ≤ second.span.start)
    (wide : ∀ word ∈ events.filterMap Event.word?, word.span.start < word.span.stop) :
    Accounted (seen ++ events.filterMap Event.word?)
      (tokens ++ (context.run .standard none events).tokens)
      (context.run .standard none events).context.state.literal := by
  obtain ⟨read, -, holds, whole⟩ :=
    placing.run none context events seen tokens accounted ordered wide
  rw [whole (Context.run_not_refused _ _ _)] at holds
  exact holds

-- What a scan keeps beside the account, given that each word keeps it.
theorem Scanner.scan_accounted (Holds : List Word → List Token → Option OpenLiteral → Prop)
    (source file : Text) (sink : Option Sink) (nonempty : source ≠ []) (nulFree : '\x00' ∉ source)
    (start : Holds [] [] none)
    (step : ∀ seen tokens literal word token? literal', Accounted seen tokens literal →
      Holds seen tokens literal → word.Follows seen → Placed word literal token? literal' →
      Holds (seen ++ [word]) (tokens ++ token?.toList) literal') :
    ∃ read, read <+: source.sourceWords ∧
      Accounted read (fresh source file sink).scan.1.tokens
        (fresh source file sink).scan.1.context.state.literal ∧
      Holds read (fresh source file sink).scan.1.tokens
        (fresh source file sink).scan.1.context.state.literal := by
  have placing : Placing fun seen tokens literal =>
      Accounted seen tokens literal ∧ Holds seen tokens literal := by
    rintro seen tokens literal word token? literal' ⟨accounted, holds⟩ follows placed
    exact ⟨accounted.step follows token? literal' placed,
      step _ _ _ _ _ _ accounted holds follows placed⟩
  have empty : Accounted [] [] none := by constructor <;> simp
  exact placing_scan source file sink nonempty nulFree placing ⟨empty, start⟩

theorem Scanner.scan_accounts_once (source file : Text) (sink : Option Sink)
    (nonempty : source ≠ []) (nulFree : '\x00' ∉ source)
    (accepting : ∀ receiver ∈ sink, receiver.limit = none) :
    let scanned := (fresh source file sink).scan.1
    (fresh source file sink).scan.2 = none ∧
      (source.sourceWords.filter (·.isDirectiveIn scanned.tokens)).map Word.text =
        (scanned.tokens.filter (·.kind = .directive)).map Token.value ∧
      (source.sourceWords.filter (!·.isDirectiveIn scanned.tokens)).flatMap Word.text =
        (scanned.tokens.filter (·.kind ≠ .directive)).flatMap Token.value ++
          scanned.context.state.stringParts.flatten ∧
      ∀ word ∈ source.sourceWords,
        accounts scanned.tokens scanned.context.state.literal word = 1 := by
  have start : Accounted [] [] none := by constructor <;> simp
  have ordered := source.sourceWords_pairwise
  have wide := source.start_lt_stop_of_mem_sourceWords
  rw [← source.words_events] at ordered wide
  have account := Accounted.run source.events [] [] {} start ordered wide
  rw [source.words_events] at account
  rw [scan_fresh source file sink nonempty nulFree accepting]
  exact ⟨rfl, account.directives, account.others, account.once⟩

theorem Scanner.scan_open_literal_accounts :
    let source : Text := "int \"a #b c\nd\" x \"// y".toList
    let scanned := (fresh source defaultFile (some {})).scan.1
    scanned.context.state.stringParts.flatten = "\"//y".toList ∧
      ∀ word ∈ source.sourceWords,
        accounts scanned.tokens scanned.context.state.literal word = 1 := by
  refine ⟨by decide +kernel, ?_⟩
  exact (scan_accounts_once _ _ _ (by decide) (by decide) (by simp)).2.2.2

end LineLexer
