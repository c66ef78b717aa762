import LineLexer.Proofs.TableIndependence

set_option autoImplicit false

namespace LineLexer

namespace Context

structure Closed (context : Context) : Prop where
  outside : context.state.inDirective = false
  noString : context.state.inString = false
  free : context.state.expecting = false

theorem Closed.wider {context : Context} (closed : context.Closed) :
    Wider context.declared {} context.newLine := by
  obtain ⟨⟨inDirective, literal, expecting, inComment⟩, declared⟩ := context
  obtain ⟨outside, noString, free⟩ := closed
  have noLiteral : literal = none := by simpa [State.inString] using noString
  constructor
  · simp_all [newLine]
  · intro name
    simp [newLine]

-- Every source begins with a line, which ends the comment of the scan before.
theorem run_newLine (context : Context) (source : Text) :
    context.newLine.run .standard none source.events =
      context.run .standard none source.events := by
  unfold Text.events
  cases found : source.lines with
  | nil => exact absurd found source.lines_ne_nil
  | cons line rest => rfl

theorem run_again (source : Text)
    (closed : (run .standard none {} source.events).context.Closed) :
    let first := run .standard none {} source.events
    let again := first.context.run .standard none source.events
    again.context = first.context ∧
      again.tokens = first.tokens.map (·.resolvedBy first.context.declared) ∧
      again.diagnostics = first.diagnostics.filter (!·.isResolvedBy first.context.declared) := by
  intro first again
  obtain ⟨wider, tokens, diagnostics⟩ := closed.wider.run source.events
  rw [run_newLine] at wider tokens diagnostics
  refine ⟨?_, tokens, diagnostics⟩
  have names : again.context.declared = first.context.declared := by
    apply Names.ext
    intro name
    rw [wider.names name]
    exact or_self_iff
  have state : again.context.state = first.context.state := wider.state
  calc again.context
    _ = ⟨again.context.state, again.context.declared⟩ := rfl
    _ = ⟨first.context.state, first.context.declared⟩ := by rw [state, names]

end Context

namespace Scanner

def rescanned (scanner : Scanner) : Nat → Scanner
  | 0 => scanner
  | count + 1 => (scanner.rescanned count).scan.1

theorem rescanned_induction {motive : Scanner → Prop} (scanner : Scanner) (start : motive scanner)
    (step : ∀ before, motive before → motive before.scan.1) (count : Nat) :
    motive (scanner.rescanned count) := by
  induction count with
  | zero => exact start
  | succ count ih => exact step _ ih

theorem scan_keeps (scanner : Scanner) :
    scanner.scan.1.source = scanner.source ∧ scanner.scan.1.grammar = scanner.grammar := by
  unfold scan
  cases scanner.source.inputError? <;> exact ⟨rfl, rfl⟩

structure KnowsMore (narrow wide : Scanner) : Prop where
  standard : narrow.grammar = .standard ∧ wide.grammar = .standard
  accepting : narrow.room = none ∧ wide.room = none
  state : wide.context.state = narrow.context.state
  names : ∀ name ∈ narrow.context.declared, name ∈ wide.context.declared

structure ReadAlike (narrow wide : Scanner) (events : List Event) : Prop where
  completed : (narrow.feed events).2 = none ∧ (wide.feed events).2 = none
  steps : List.Forall₂ (Step.Resolved wide.context.declared)
    (narrow.context.trace .standard events) (wide.context.trace .standard events)
  state : (wide.feed events).1.context.state = (narrow.feed events).1.context.state
  additions : wide.context.additions .standard events = narrow.context.additions .standard events
  names (name : Text) :
    (name ∈ (narrow.feed events).1.context.declared ↔
      name ∈ narrow.context.declared ∨ name ∈ narrow.context.additions .standard events) ∧
    (name ∈ (wide.feed events).1.context.declared ↔
      name ∈ wide.context.declared ∨ name ∈ wide.context.additions .standard events)
  tokens :
    let found := (narrow.context.trace .standard events).filterMap (·.effect.token)
    (narrow.feed events).1.tokens = narrow.tokens ++ found ∧
      (wide.feed events).1.tokens =
        wide.tokens ++ found.map (·.resolvedBy wide.context.declared)
  diagnostics :
    let found := (narrow.context.trace .standard events).filterMap (·.effect.diagnostic)
    (narrow.feed events).1.diagnostics = narrow.diagnostics ++ found ∧
      (wide.feed events).1.diagnostics =
        wide.diagnostics ++ found.filter (!·.isResolvedBy wide.context.declared)

theorem KnowsMore.readAlike {narrow wide : Scanner} (more : KnowsMore narrow wide)
    (events : List Event) : ReadAlike narrow wide events := by
  obtain ⟨⟨standard, standard'⟩, ⟨accepting, accepting'⟩, state, names⟩ := more
  have wider : Context.Wider wide.context.declared narrow.context wide.context := by
    refine ⟨state, fun name => ⟨.inr, ?_⟩⟩
    rintro (known | known)
    · exact names name known
    · exact known
  obtain ⟨after, tokens, diagnostics⟩ := wider.run events
  obtain ⟨found, reported⟩ := narrow.context.run_trace events
  rw [found] at tokens
  rw [reported] at diagnostics
  constructor
  · simp [feed, standard, standard', accepting, accepting', Context.run_not_refused]
  · exact wider.trace events
  · simpa [feed, absorb, standard, standard', accepting, accepting'] using after.state
  · exact wider.additions events
  · intro name
    simp [feed, absorb, standard, standard', accepting, accepting', Context.mem_declared_run]
  · simp [feed, absorb, standard, standard', accepting, accepting', found, tokens]
  · simp [feed, absorb, standard, standard', accepting, accepting', reported, diagnostics]

theorem room_absorb (scanner : Scanner) (run : Run) (unbounded : scanner.room = none) :
    (scanner.absorb run).room = none := by
  cases found : scanner.sink with
  | none => simp [room, absorb, found]
  | some sink => simpa [room, absorb, found, Sink.room, Sink.receive] using unbounded

theorem absorb_absorb (scanner : Scanner) (first second : Run) :
    (scanner.absorb first).absorb second = scanner.absorb
      { second with
        tokens := first.tokens ++ second.tokens
        diagnostics := first.diagnostics ++ second.diagnostics } := by
  cases found : scanner.sink <;> simp [absorb, Sink.receive, found]

theorem scan_of_valid (scanner : Scanner) (standard : scanner.grammar = .standard)
    (unbounded : scanner.room = none) (valid : scanner.source.inputError? = none) :
    scanner.scan =
      (scanner.absorb (scanner.context.run .standard none scanner.source.events), none) := by
  simp [scan, feed, valid, unbounded, standard, Context.run_not_refused]

theorem rescanned_of_rejected (scanner : Scanner) (error : InputError)
    (rejected : scanner.source.inputError? = some error) (count : Nat) :
    scanner.rescanned count = scanner := by
  induction count with
  | zero => rfl
  | succ count ih => simp [rescanned, ih, scan, rejected]

-- A scan that ends in the context it began in adds the same each time.
theorem rescanned_eq_absorb (scanner : Scanner) (standard : scanner.grammar = .standard)
    (unbounded : scanner.room = none) (valid : scanner.source.inputError? = none)
    (fixed : (scanner.context.run .standard none scanner.source.events).context = scanner.context)
    (count : Nat) :
    let run := scanner.context.run .standard none scanner.source.events
    scanner.rescanned count = scanner.absorb
      { context := scanner.context
        tokens := (List.replicate count run.tokens).flatten
        diagnostics := (List.replicate count run.diagnostics).flatten } := by
  intro run
  induction count with
  | zero =>
    obtain ⟨source, file, grammar, sink, context, tokens, diagnostics⟩ := scanner
    cases sink <;> simp [rescanned, absorb, Sink.receive]
  | succ count ih =>
    have again (before : Run) (same : before.context = scanner.context) :
        (scanner.absorb before).scan.1 = (scanner.absorb before).absorb run := by
      have context : (scanner.absorb before).context = scanner.context := same
      have room := scanner.room_absorb before unbounded
      rw [scan_of_valid (scanner.absorb before) standard room valid, context]
      rfl
    rw [rescanned, ih, again _ rfl, absorb_absorb, List.replicate_succ', List.replicate_succ']
    simp [absorb, fixed, run]

theorem rescanned_of_closed (source file : Text) (sink : Option Sink)
    (unbounded : (fresh source file sink).room = none) (valid : source.inputError? = none)
    (closed : (Context.run .standard none {} source.events).context.Closed) (count : Nat) :
    let first := Context.run .standard none {} source.events
    ((fresh source file sink).absorb first).rescanned count = (fresh source file sink).absorb
      { context := first.context
        tokens := first.tokens ++
          (List.replicate count
            (first.tokens.map (·.resolvedBy first.context.declared))).flatten
        diagnostics := first.diagnostics ++
          (List.replicate count
            (first.diagnostics.filter (!·.isResolvedBy first.context.declared))).flatten } := by
  intro first
  obtain ⟨fixed, tokens, diagnostics⟩ := Context.run_again source closed
  have room := (fresh source file sink).room_absorb first unbounded
  rw [rescanned_eq_absorb ((fresh source file sink).absorb first) rfl room valid fixed,
    absorb_absorb]
  rw [← tokens, ← diagnostics]
  rfl

theorem table_only_resolves_names :
    (∀ (narrow wide : Scanner) (events : List Event), KnowsMore narrow wide →
      ReadAlike narrow wide events) ∧
    ∀ (source file : Text) (sink : Option Sink), (∀ receiver ∈ sink, receiver.limit = none) →
      let first := (fresh source file sink).scan.1
      first.context.Closed → ∀ count,
        (first.rescanned count).context = first.context ∧
        (first.rescanned count).tokens = first.tokens ++
          (List.replicate count
            (first.tokens.map (·.resolvedBy first.context.declared))).flatten ∧
        (first.rescanned count).diagnostics = first.diagnostics ++
          (List.replicate count
            (first.diagnostics.filter (!·.isResolvedBy first.context.declared))).flatten ∧
        (first.rescanned count).scan.2 = (fresh source file sink).scan.2 := by
  refine ⟨fun narrow wide events more => more.readAlike events, ?_⟩
  intro source file sink accepting first closed count
  cases found : source.inputError? with
  | some error =>
    have rejected : (fresh source file sink).source.inputError? = some error := found
    have same : first = fresh source file sink := by simp [first, scan, rejected]
    rw [same, rescanned_of_rejected _ error rejected]
    simp [fresh]
  | none =>
    have valid : (fresh source file sink).source.inputError? = none := found
    have unbounded : (fresh source file sink).room = none := by
      cases sink with
      | none => rfl
      | some receiver => simp [room, fresh, Sink.room, accepting receiver rfl]
    have scanned := scan_of_valid (fresh source file sink) rfl unbounded valid
    have same : first = (fresh source file sink).absorb
        (Context.run .standard none {} source.events) := congrArg Prod.fst scanned
    rw [same] at closed ⊢
    rw [rescanned_of_closed source file sink unbounded valid closed, scanned,
      scan_of_valid _ rfl (room_absorb _ _ unbounded) valid]
    exact ⟨rfl, rfl, rfl, rfl⟩

def earlyUse : Scanner :=
  (fresh "x int x y // c".toList defaultFile (some {})).scan.1

theorem earlyUse_resolved_by_rescan :
    let narrow := fresh "x int x y // c".toList defaultFile none
    let wide := { narrow with context.declared := earlyUse.context.declared }
    KnowsMore narrow wide ∧ ReadAlike narrow wide narrow.source.events ∧
      earlyUse.context.Closed ∧ earlyUse.context.state.inComment = true ∧
      earlyUse.tokens.map (·.resolvedBy earlyUse.context.declared) ≠ earlyUse.tokens ∧
      (earlyUse.rescanned 2).tokens = earlyUse.tokens ++
        (List.replicate 2
          (earlyUse.tokens.map (·.resolvedBy earlyUse.context.declared))).flatten := by
  intro narrow wide
  have more : KnowsMore narrow wide :=
    { standard := ⟨rfl, rfl⟩
      accepting := ⟨rfl, rfl⟩
      state := rfl
      names := fun name known => absurd known (Names.not_mem_empty name) }
  have closed : earlyUse.context.Closed := by
    constructor <;> decide +kernel
  have rescan := table_only_resolves_names.2 "x int x y // c".toList defaultFile (some {})
    (by simp) closed 2
  exact ⟨more, table_only_resolves_names.1 narrow wide _ more, closed, by decide +kernel,
    by decide +kernel, rescan.2.1⟩

end Scanner

end LineLexer
