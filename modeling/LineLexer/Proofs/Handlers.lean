import LineLexer.Machine
import LineLexer.Proofs.FreshScan

set_option autoImplicit false

namespace LineLexer

open EStateM

theorem Sink.isOver_receive (sink : Sink) (diagnostic : Diagnostic) :
    (sink.receive [diagnostic]).isOver = true ↔ sink.room = some 0 := by
  obtain ⟨limit, received⟩ := sink
  cases limit with
  | none => simp [isOver, receive, room]
  | some limit =>
    simp only [isOver, receive, room, Option.any_some, List.length_append, List.length_singleton,
      decide_eq_true_eq, Option.map_some, Option.some.injEq, Nat.sub_eq_zero_iff_le]
    exact Nat.lt_succ_iff

namespace Grammar

theorem find?_standard (state : State) (text : Text) :
    standard.rules.find? (standard.applies state text) = some (standard.ruleFor state text) := by
  cases found : standard.rules.find? (standard.applies state text) with
  | some rule => simp [ruleFor, found]
  | none =>
    have last := List.find?_eq_none.mp found .unknown (by decide)
    simp [applies] at last

theorem applies_ruleFor (state : State) (text : Text) :
    standard.applies state text (standard.ruleFor state text) = true :=
  List.find?_some (find?_standard state text)

theorem ruleFor_of_expecting (state : State) (text : Text) (expected : state.expecting = true) :
    standard.ruleFor state text ≠ .reserved ∧ standard.ruleFor state text ≠ .use := by
  rw [ruleFor_standard, expected]
  constructor
  · grind
  · grind

end Grammar

namespace Machine

def settled (machine : Machine) : Machine :=
  { machine with registers.expecting := false }

def noted (machine : Machine) (diagnostic : Diagnostic) : Machine :=
  { machine with
    sink := machine.sink.map (·.receive [diagnostic])
    diagnostics := machine.diagnostics ++ [diagnostic] }

@[simp] theorem run_set (change : Registers → Registers) (machine : Machine) :
    (set change).run machine = .ok () { machine with registers := change machine.registers } := rfl

@[simp] theorem run_emit (kind : Kind) (word : Word) (machine : Machine) :
    (emit kind word).run machine =
      .ok () { machine with tokens := machine.tokens ++ [word.token kind] } := rfl

theorem run_report (problem : Problem) (word : Word) (machine : Machine) :
    (report problem word).run machine =
      if machine.sink.bind Sink.room = some 0 then
        .error (.refused (word.diagnostic problem)) (machine.noted (word.diagnostic problem))
      else .ok () (machine.noted (word.diagnostic problem)) := by
  obtain ⟨source, file, sink, registers, declared, tokens, diagnostics⟩ := machine
  cases sink with
  | none => rfl
  | some sink =>
    simp only [report, run_bind, run_modify, run_get, noted, Option.bind_some, Option.map_some,
      ← sink.isOver_receive (word.diagnostic problem)]
    split
    · rfl
    · rfl

theorem run_report_emit (problem : Problem) (word : Word) (machine : Machine) :
    (do report problem word; emit .error word : Action).run machine =
      if machine.sink.bind Sink.room = some 0 then
        .error (.refused (word.diagnostic problem)) (machine.noted (word.diagnostic problem))
      else .ok () { machine.noted (word.diagnostic problem) with
        tokens := machine.tokens ++ [word.token .error] } := by
  rw [run_bind, run_report]
  by_cases full : machine.sink.bind Sink.room = some 0
  next => simp only [full, if_true]
  next =>
    simp only [full, if_false]
    rfl

variable (fallback : Position → Position)

@[simp] theorem run_closeString (stop : Position) (machine : Machine) :
    (closeString fallback stop).run machine =
      .ok () { machine with
        registers := { machine.registers with
          inString := false, stringParts := [], stringStart := none }
        tokens := machine.tokens ++ [{
          value := machine.registers.stringParts.flatten
          kind := .string
          span := { start := machine.registers.stringStart.getD (fallback stop), stop } }] } := rfl

-- `declaration` clears the place for a name before it reports, so the clearing that a raise skips
-- has nothing left to do. No other handler that `expecting` lets through looks at the place.
theorem run_handle_settled (machine : Machine) (word : Word) (rule : Rule)
    (notReserved : rule ≠ .reserved) (notUse : rule ≠ .use) :
    (do
      handle fallback word rule
      set fun registers => { registers with expecting := false } : Action).run machine =
      (handle fallback word rule).run machine.settled := by
  rw [run_bind]
  cases rule with
  | reserved | use => contradiction
  | literalPart =>
    cases closes : word.text.closesLiteral <;> simp [handle, literalPart, closes, settled]
  | literalHead =>
    by_cases whole : 1 < word.text.length ∧ word.text.closesLiteral <;>
      simp [handle, literalHead, whole, settled]
  | declaration =>
    cases name : word.text.isIdentifier with
    | true => simp [handle, declaration, name, settled]
    | false =>
      by_cases full : machine.sink.bind Sink.room = some 0 <;>
        simp [handle, declaration, name, run_report, full, settled, noted]
  | _ => rfl

end Machine

def State.registers (state : State) : Registers where
  inDirective := state.inDirective
  inString := state.inString
  expecting := state.expecting
  inComment := state.inComment
  stringParts := state.stringParts
  stringStart := state.stringStart

namespace Scanner

def machine (scanner : Scanner) : Machine where
  source := scanner.source
  file := scanner.file
  sink := scanner.sink
  registers := scanner.context.state.registers
  declared := scanner.context.declared
  tokens := scanner.tokens
  diagnostics := scanner.diagnostics

def ran : Scanner × Option Halt → EStateM.Result Halt Machine Unit
  | (after, none) => .ok () after.machine
  | (after, some halt) => .error halt after.machine

def noting (scanner : Scanner) (effect : Effect) : Scanner :=
  scanner.absorb (Run.after { context := effect.context } effect)

def take (scanner : Scanner) (effect : Effect) : Scanner × Option Halt :=
  match effect.diagnostic with
  | some diagnostic =>
    if scanner.room = some 0 then
      (scanner.absorb (.stopped effect.context diagnostic), some (.refused diagnostic))
    else (scanner.noting effect, none)
  | none => (scanner.noting effect, none)

theorem classify_eq_take (scanner : Scanner) (word : Word) :
    scanner.classify word = scanner.take (scanner.context.classify scanner.grammar word) := by
  simp only [classify, feed, Context.run, take]
  generalize scanner.context.classify scanner.grammar word = effect
  generalize scanner.room = room
  obtain ⟨context, token, diagnostic⟩ := effect
  cases diagnostic with
  | none => rfl
  | some diagnostic =>
    cases room with
    | none => rfl
    | some left => cases left <;> rfl

theorem take_silent (scanner : Scanner) (effect : Effect) (silent : effect.diagnostic = none) :
    scanner.take effect = ({ scanner with
      context := effect.context, tokens := scanner.tokens ++ effect.token.toList }, none) := by
  obtain ⟨source, file, grammar, sink, context, tokens, diagnostics⟩ := scanner
  cases sink <;> simp [take, silent, noting, absorb, Run.after, Sink.receive]

theorem ran_take_report (scanner : Scanner) (word : Word) (problem : Problem) :
    ran (scanner.take (scanner.context.report word problem)) =
      (do Machine.report problem word; Machine.emit .error word : Action).run scanner.machine := by
  rw [Machine.run_report_emit]
  simp only [take, Context.report]
  change _ = if scanner.room = some 0 then _ else _
  split
  · simp [ran, machine, absorb, Run.stopped, Machine.noted]
  · rfl

theorem applies_machine (scanner : Scanner) (text : Text) :
    scanner.machine.applies text = Grammar.standard.applies scanner.context.state text := by
  funext rule
  cases rule <;> rfl

theorem machine_settled (scanner : Scanner) :
    scanner.machine.settled = { scanner with context := scanner.context.settled }.machine := rfl

variable (fallback : Position → Position)

theorem run_literalPart (scanner : Scanner) (word : Word) (literal : OpenLiteral)
    (found : scanner.context.state.literal = some literal) :
    (Machine.literalPart fallback word).run scanner.machine =
      ran (scanner.take (scanner.context.literalPart word)) := by
  cases closes : word.text.closesLiteral with
  | true =>
    simp only [Context.literalPart, found, closes, if_true]
    rw [take_silent _ _ rfl]
    simp [Machine.literalPart, closes, ran, machine, Context.close, State.registers,
      State.inString, State.stringParts, State.stringStart, found, OpenLiteral.close]
  | false =>
    simp only [Context.literalPart, found, closes, Bool.false_eq_true, if_false]
    rw [take_silent _ _ rfl]
    simp [Machine.literalPart, closes, ran, machine, Context.keep, State.registers,
      State.inString, State.stringParts, State.stringStart, found]

theorem run_literalHead (scanner : Scanner) (word : Word) :
    (Machine.literalHead fallback word).run scanner.machine =
      ran (scanner.take (scanner.context.literalHead word)) := by
  by_cases whole : 1 < word.text.length ∧ word.text.closesLiteral
  next =>
    simp only [Context.literalHead, if_pos whole]
    rw [take_silent _ _ rfl]
    simp [Machine.literalHead, whole, ran, machine, Context.close, State.registers,
      State.inString, State.stringParts, State.stringStart, OpenLiteral.close]
  next =>
    simp only [Context.literalHead, if_neg whole]
    rw [take_silent _ _ rfl]
    simp [Machine.literalHead, whole, ran, machine, Context.keep, State.registers,
      State.inString, State.stringParts, State.stringStart]

theorem run_declaration (scanner : Scanner) (word : Word)
    (free : scanner.context.state.expecting = false) :
    (Machine.declaration word).run scanner.machine =
      ran (scanner.take (scanner.context.declaration word)) := by
  cases name : word.text.isIdentifier with
  | true =>
    simp only [Context.declaration, name, if_true]
    rw [take_silent _ _ rfl]
    simp [Machine.declaration, name, ran, machine, Context.emit, State.registers, free]
  | false =>
    simp only [Context.declaration, name, Bool.false_eq_true, if_false]
    rw [ran_take_report]
    simp [Machine.declaration, name, machine, State.registers, free]

theorem run_use (scanner : Scanner) (word : Word) :
    (Machine.use word).run scanner.machine = ran (scanner.take (scanner.context.use word)) := by
  by_cases member : word.text ∈ scanner.context.declared
  next =>
    simp only [Context.use, if_pos member]
    rw [take_silent _ _ rfl]
    simp [Machine.use, machine, member, ran, Context.emit]
  next =>
    simp only [Context.use, if_neg member]
    rw [ran_take_report]
    simp [Machine.use, machine, member]

theorem run_handle (scanner : Scanner) (word : Word) (rule : Rule)
    (free : scanner.context.state.expecting = false)
    (inside : rule = .literalPart → scanner.context.state.literal.isSome = true) :
    (Machine.handle fallback word rule).run scanner.machine =
      ran (scanner.take (scanner.context.apply word rule)) := by
  cases rule with
  | literalPart =>
    obtain ⟨literal, found⟩ := Option.isSome_iff_exists.mp (inside rfl)
    exact run_literalPart fallback scanner word literal found
  | literalHead => exact run_literalHead fallback scanner word
  | declaration => exact run_declaration scanner word free
  | use => exact run_use scanner word
  | _ =>
    rw [take_silent _ _ rfl]
    rfl

-- The step: a word does to the registers what it does to the state, also when its diagnostic is
-- refused in the middle of a handler, and whatever a string without a start falls back on.
theorem run_classify (scanner : Scanner) (word : Word) :
    (Machine.classify fallback word).run scanner.machine =
      ran (scanner.take (scanner.context.classify .standard word)) := by
  rw [Context.classify_eq]
  have applied := Grammar.applies_ruleFor scanner.context.state word.text
  have notName := Grammar.ruleFor_of_expecting scanner.context.state word.text
  simp only [Machine.classify, run_bind, run_get, applies_machine, Grammar.find?_standard]
  generalize Grammar.standard.ruleFor scanner.context.state word.text = rule at applied notName ⊢
  have inside : rule = .literalPart → scanner.context.state.literal.isSome = true := by
    rintro rfl
    exact applied
  have handled : (Machine.handle fallback word rule).run scanner.machine.settled =
      ran (scanner.take (scanner.context.settled.apply word rule)) :=
    run_handle fallback { scanner with context := scanner.context.settled } word rule rfl inside
  rw [← handled]
  cases expected : scanner.context.state.expecting with
  | true =>
    obtain ⟨notReserved, notUse⟩ := notName expected
    rw [← Machine.run_handle_settled fallback scanner.machine word rule notReserved notUse]
    have waiting : scanner.machine.registers.expecting = true := expected
    rw [waiting]
    rfl
  | false =>
    rw [machine_settled, scanner.context.settled_of_free expected]
    have free : scanner.machine.registers.expecting = false := expected
    rw [free]
    cases (Machine.handle fallback word rule).run scanner.machine <;> rfl

theorem noting_absorb (scanner : Scanner) (effect : Effect) (rest : Run) :
    (scanner.noting effect).absorb rest = scanner.absorb (rest.after effect) := by
  obtain ⟨source, file, grammar, sink, context, tokens, diagnostics⟩ := scanner
  cases sink <;> simp [noting, absorb, Run.after, Sink.receive]

theorem room_noting (scanner : Scanner) (effect : Effect) :
    (scanner.noting effect).room = scanner.room.map (· - effect.diagnostic.toList.length) := by
  obtain ⟨source, file, grammar, sink, context, tokens, diagnostics⟩ := scanner
  match sink with
  | none => rfl
  | some ⟨none, received⟩ => rfl
  | some ⟨some limit, received⟩ =>
    simp [noting, absorb, Run.after, room, Sink.receive, Sink.room, Nat.sub_sub]

theorem feed_word (scanner : Scanner) (word : Word) (rest : List Event)
    (accepted : (scanner.context.classify scanner.grammar word).diagnostic = none ∨
      scanner.room ≠ some 0) :
    scanner.feed (.word word :: rest) =
      (scanner.noting (scanner.context.classify scanner.grammar word)).feed rest := by
  have goesOn := scanner.context.run_word_accepted scanner.grammar scanner.room word rest accepted
  rw [← room_noting] at goesOn
  simp only [feed, noting_absorb, goesOn]
  rfl

theorem feed_word_refused (scanner : Scanner) (word : Word) (rest : List Event)
    (diagnostic : Diagnostic)
    (found : (scanner.context.classify scanner.grammar word).diagnostic = some diagnostic)
    (full : scanner.room = some 0) :
    scanner.feed (.word word :: rest) =
      scanner.take (scanner.context.classify scanner.grammar word) := by
  rw [← classify_eq_take]
  simp only [classify, feed, Context.run, found, full]

theorem run_feed (scanner : Scanner) (standard : scanner.grammar = .standard)
    (events : List Event) :
    (Machine.feed fallback events).run scanner.machine = ran (scanner.feed events) := by
  induction events generalizing scanner with
  | nil =>
    rw [feed_nil]
    rfl
  | cons event rest ih =>
    cases event with
    | line => exact ih { scanner with context := scanner.context.newLine } standard
    | word word =>
      simp only [Machine.feed, run_bind, run_classify, ← standard]
      cases found : (scanner.context.classify scanner.grammar word).diagnostic with
      | none =>
        rw [feed_word scanner word rest (.inl found)]
        simp only [take, found]
        exact ih _ standard
      | some diagnostic =>
        by_cases full : scanner.room = some 0
        next =>
          rw [feed_word_refused scanner word rest diagnostic found full]
          simp only [take, found, full, if_true]
          rfl
        next =>
          rw [feed_word scanner word rest (.inr full)]
          simp only [take, found, full, if_false]
          exact ih _ standard

theorem run_scan (scanner : Scanner) (standard : scanner.grammar = .standard) :
    (Machine.scan fallback).run scanner.machine = ran scanner.scan := by
  have source : scanner.machine.source = scanner.source := rfl
  simp only [Machine.scan, run_bind, run_get, scan, source]
  cases scanner.source.inputError? with
  | some error => rfl
  | none => exact run_feed fallback scanner standard scanner.source.events

theorem perform_scan (scanner : Scanner) : (scanner.perform .scan).1 = scanner.scan.1 := by
  simp only [perform]
  split <;> simp_all

theorem outcome_eq (action : Action) (machine : Machine) (result : Scanner × Option Halt)
    (run : action.run machine = ran result) :
    action.outcome machine = (result.1.machine, result.2) := by
  obtain ⟨after, halt⟩ := result
  unfold Action.outcome
  rw [run]
  cases halt <;> rfl

theorem outcome_feed (scanner : Scanner) (standard : scanner.grammar = .standard)
    (events : List Event) :
    (Machine.feed fallback events).outcome scanner.machine =
      ((scanner.feed events).1.machine, (scanner.feed events).2) :=
  outcome_eq _ _ _ (run_feed fallback scanner standard events)

theorem outcome_classify (scanner : Scanner) (standard : scanner.grammar = .standard)
    (word : Word) :
    (Machine.classify fallback word).outcome scanner.machine =
      ((scanner.classify word).1.machine, (scanner.classify word).2) := by
  apply outcome_eq
  rw [run_classify, classify_eq_take, standard]

theorem outcome_scan (scanner : Scanner) (standard : scanner.grammar = .standard) :
    (Machine.scan fallback).outcome scanner.machine =
      (scanner.scan.1.machine, scanner.scan.2) :=
  outcome_eq _ _ _ (run_scan fallback scanner standard)

end Scanner

namespace Machine

-- The sink may be exchanged in between: a call meets one refusal at most, so a receiver that
-- refuses as it likes is some limit for each call.
inductive Reachable : Machine → Prop where
  | fresh (source file : Text) (sink : Option Sink) : Reachable { source, file, sink }
  | exchange (machine : Machine) (sink : Option Sink) (reached : Reachable machine) :
    Reachable { machine with sink }
  | scan (machine : Machine) (reached : Reachable machine) :
    Reachable ((scan id).outcome machine).1
  | word (machine : Machine) (word : Word) (reached : Reachable machine) :
    Reachable ((classify id word).outcome machine).1
  | midway (machine : Machine) (events : List Event) (begun : events <+: machine.source.events)
      (reached : Reachable machine) :
    Reachable ((feed id events).outcome machine).1

theorem Reachable.exists_scanner {machine : Machine} (reached : machine.Reachable) :
    ∃ scanner : Scanner, scanner.Reachable ∧ machine = scanner.machine := by
  induction reached with
  | fresh source file sink => exact ⟨.fresh source file sink, .fresh source file sink, rfl⟩
  | exchange machine sink reached ih =>
    obtain ⟨scanner, known, rfl⟩ := ih
    exact ⟨{ scanner with sink }, .exchange scanner sink known, rfl⟩
  | scan machine reached ih =>
    obtain ⟨scanner, known, rfl⟩ := ih
    rw [Scanner.outcome_scan id scanner known.grammar_eq]
    exact ⟨scanner.scan.1, scanner.perform_scan ▸ .perform scanner .scan known, rfl⟩
  | word machine word reached ih =>
    obtain ⟨scanner, known, rfl⟩ := ih
    rw [Scanner.outcome_classify id scanner known.grammar_eq]
    exact ⟨(scanner.classify word).1,
      scanner.perform_eq_feed (.word word) ▸ .perform scanner (.word word) known, rfl⟩
  | midway machine events begun reached ih =>
    obtain ⟨scanner, known, rfl⟩ := ih
    rw [Scanner.outcome_feed id scanner known.grammar_eq]
    exact ⟨(scanner.feed events).1, .midway scanner events begun known, rfl⟩

end Machine

end LineLexer
