import LineLexer.Proofs.Reachability

set_option autoImplicit false

namespace LineLexer

theorem Text.inputError?_eq_none_iff (source : Text) :
    source.inputError? = none ↔ source ≠ [] ∧ '\x00' ∉ source := by
  cases source with
  | nil => simp [Text.inputError?]
  | cons c rest =>
    by_cases nul : '\x00' ∈ c :: rest
    next => simp [Text.inputError?, nul]
    next => simp [Text.inputError?, nul]

theorem Text.inputError?_eq_none (source : Text) (nonempty : source ≠ [])
    (nulFree : '\x00' ∉ source) : source.inputError? = none :=
  source.inputError?_eq_none_iff.mpr ⟨nonempty, nulFree⟩

def Run.andThen (first second : Run) : Run :=
  { second with
    tokens := first.tokens ++ second.tokens
    diagnostics := first.diagnostics ++ second.diagnostics }

theorem Run.after_andThen (first second : Run) (effect : Effect) :
    (first.andThen second).after effect = (first.after effect).andThen second := by
  simp [Run.andThen, Run.after]

namespace Context

variable (grammar : Grammar) (context : Context)

@[simp] theorem run_nil (room : Option Nat) : run grammar room context [] = { context } := rfl

@[simp] theorem run_line (room : Option Nat) (rest : List Event) :
    run grammar room context (.line :: rest) = run grammar room context.newLine rest := rfl

@[simp] theorem run_word (word : Word) (rest : List Event) :
    run grammar none context (.word word :: rest) =
      (run grammar none (context.classify grammar word).context rest).after
        (context.classify grammar word) := by
  simp only [run]
  split <;> simp_all

theorem run_word_cases (room : Option Nat) (word : Word) (rest : List Event) :
    (∃ diagnostic, (context.classify grammar word).diagnostic = some diagnostic ∧
      run grammar room context (.word word :: rest) =
        .stopped (context.classify grammar word).context diagnostic) ∨
    ∃ left, run grammar room context (.word word :: rest) =
      (run grammar left (context.classify grammar word).context rest).after
        (context.classify grammar word) := by
  simp only [run]
  split
  next diagnostic found => exact .inl ⟨diagnostic, found, rfl⟩
  next => exact .inr ⟨_, rfl⟩
  next => exact .inr ⟨_, rfl⟩

theorem run_word_accepted (room : Option Nat) (word : Word) (rest : List Event)
    (accepted : (context.classify grammar word).diagnostic = none ∨ room ≠ some 0) :
    run grammar room context (.word word :: rest) =
      (run grammar (room.map (· - (context.classify grammar word).diagnostic.toList.length))
        (context.classify grammar word).context rest).after (context.classify grammar word) := by
  simp only [run]
  cases found : (context.classify grammar word).diagnostic with
  | none => cases room <;> rfl
  | some diagnostic =>
    cases room with
    | none => rfl
    | some left =>
      cases left with
      | zero => simp [found] at accepted
      | succ left => rfl

theorem run_not_refused (events : List Event) :
    (run grammar none context events).refused = none := by
  induction events generalizing context with
  | nil => rfl
  | cons event rest ih =>
    cases event with
    | line => simpa using ih context.newLine
    | word word => simpa [Run.after] using ih (context.classify grammar word).context

theorem run_append (first second : List Event) :
    run grammar none context (first ++ second) =
      (run grammar none context first).andThen
        (run grammar none (run grammar none context first).context second) := by
  induction first generalizing context with
  | nil => simp [Run.andThen]
  | cons event rest ih =>
    cases event with
    | line => simpa using ih context.newLine
    | word word =>
      have later := ih (context.classify grammar word).context
      rw [List.cons_append, run_word, run_word, later, Run.after_andThen]
      rfl

end Context

namespace Scanner

theorem feed_unbounded (scanner : Scanner) (standard : scanner.grammar = .standard)
    (unbounded : scanner.room = none) (events : List Event) :
    scanner.feed events =
      (scanner.absorb (scanner.context.run .standard none events), none) := by
  simp [feed, unbounded, standard, Context.run_not_refused]

theorem room_fresh (source file : Text) (sink : Option Sink)
    (accepting : ∀ receiver ∈ sink, receiver.limit = none) :
    (fresh source file sink).room = none := by
  cases sink with
  | none => rfl
  | some receiver => simp [Scanner.room, fresh, Sink.room, accepting receiver rfl]

theorem scan_fresh (source file : Text) (sink : Option Sink) (nonempty : source ≠ [])
    (nulFree : '\x00' ∉ source) (accepting : ∀ receiver ∈ sink, receiver.limit = none) :
    (fresh source file sink).scan =
      ((fresh source file sink).absorb (Context.run .standard none {} source.events), none) := by
  have room := room_fresh source file sink accepting
  have accepted : (fresh source file sink).source.inputError? = none :=
    source.inputError?_eq_none nonempty nulFree
  simp only [scan, accepted]
  exact feed_unbounded _ rfl room source.events

end Scanner

namespace Text

variable (source file : Text)

theorem scanned_of_rejected (error : InputError) (rejected : source.inputError? = some error) :
    source.scanned file = .error error := by
  simp [scanned, Scanner.scan, rejected]

theorem scanned_of_accepted (accepted : source.inputError? = none) :
    source.scanned file = .ok (Scanner.feed { source, file } source.events).1 := by
  simp only [scanned, Scanner.scan, accepted]
  rw [Scanner.feed_unbounded { source, file } rfl rfl]

theorem scanned_eq_error_iff (error : InputError) :
    source.scanned file = .error error ↔ source.inputError? = some error := by
  cases valid : source.inputError? with
  | some found => simp [source.scanned_of_rejected file found valid]
  | none => simp [source.scanned_of_accepted file valid]

theorem exists_scanned_iff :
    (∃ scanner, source.scanned file = .ok scanner) ↔ source ≠ [] ∧ '\x00' ∉ source := by
  rw [← source.inputError?_eq_none_iff]
  cases valid : source.inputError? with
  | some error => simp [source.scanned_of_rejected file error valid]
  | none => simp [source.scanned_of_accepted file valid]

theorem scanned_eq_ok_iff (scanner : Scanner) :
    source.scanned file = .ok scanner ↔
      (Scanner.fresh source file none).scan = (scanner, none) := by
  have finished := Scanner.feed_unbounded (.fresh source file none) rfl rfl source.events
  have valid : (Scanner.fresh source file none).source.inputError? = source.inputError? := rfl
  unfold Scanner.scan
  rw [valid]
  cases valid : source.inputError? with
  | some error => simp [source.scanned_of_rejected file error valid]
  | none =>
    rw [source.scanned_of_accepted file valid]
    simp only [Scanner.fresh] at finished ⊢
    rw [finished]
    simp

theorem of_scanned (scanner : Scanner) (found : source.scanned file = .ok scanner) :
    scanner.source = source ∧ scanner.file = file := by
  have accepted : source.inputError? = none :=
    source.inputError?_eq_none_iff.mpr ((source.exists_scanned_iff file).mp ⟨scanner, found⟩)
  rw [source.scanned_of_accepted file accepted] at found
  obtain rfl := Except.ok.inj found
  exact ⟨rfl, rfl⟩

theorem scanned_renamed (other : Text) :
    source.scanned other =
      (source.scanned file).map fun scanner => { scanner with file := other } := by
  cases valid : source.inputError? with
  | some error =>
    rw [source.scanned_of_rejected file error valid, source.scanned_of_rejected other error valid]
    rfl
  | none =>
    rw [source.scanned_of_accepted file valid, source.scanned_of_accepted other valid]
    rfl

end Text

end LineLexer
