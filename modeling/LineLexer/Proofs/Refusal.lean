import LineLexer.Proofs.Handlers
import LineLexer.Proofs.Placement

set_option autoImplicit false

namespace LineLexer

namespace Context

-- The word at which a run with this much room stops: the words before it have filled the room, and
-- it has a diagnostic more.
structure StopsAt (context : Context) (room : Nat) (events read : List Event) (word : Word)
    (diagnostic : Diagnostic) : Prop where
  reached : read ++ [.word word] <+: events
  full : (context.run .standard none read).diagnostics.length = room
  found : ((context.run .standard none read).context.classify .standard word).diagnostic =
    some diagnostic
  stopped : context.run .standard (some room) events =
    (context.run .standard none read).andThen
      (.stopped ((context.run .standard none read).context.classify .standard word).context
        diagnostic)

theorem StopsAt.afterLine {context : Context} {room : Nat} {events read : List Event} {word : Word}
    {diagnostic : Diagnostic} (stops : context.newLine.StopsAt room events read word diagnostic) :
    context.StopsAt room (.line :: events) (.line :: read) word diagnostic where
  reached := List.cons_prefix_cons.mpr ⟨rfl, stops.reached⟩
  full := stops.full
  found := stops.found
  stopped := stops.stopped

theorem StopsAt.afterWord {context : Context} {room left : Nat} {events read : List Event}
    {first word : Word} {diagnostic : Diagnostic}
    (stops : (context.classify .standard first).context.StopsAt left events read word diagnostic)
    (used : (context.classify .standard first).diagnostic.toList.length + left = room)
    (goesOn : context.run .standard (some room) (.word first :: events) =
      ((context.classify .standard first).context.run .standard (some left) events).after
        (context.classify .standard first)) :
    context.StopsAt room (.word first :: events) (.word first :: read) word diagnostic where
  reached := List.cons_prefix_cons.mpr ⟨rfl, stops.reached⟩
  full := by
    rw [run_word, Run.after, List.length_append, stops.full]
    exact used
  found := by
    rw [run_word]
    exact stops.found
  stopped := by
    rw [goesOn, stops.stopped, Run.after_andThen, run_word]
    rfl

theorem run_bounded (context : Context) (room : Nat) (events : List Event) :
    (context.run .standard none events).diagnostics.length ≤ room ∧
        context.run .standard (some room) events = context.run .standard none events ∨
      ∃ read word diagnostic, context.StopsAt room events read word diagnostic := by
  induction events generalizing context room with
  | nil => exact .inl ⟨Nat.zero_le _, rfl⟩
  | cons event rest ih =>
    cases event with
    | line =>
      rcases ih context.newLine room with same | ⟨read, word, diagnostic, stops⟩
      · exact .inl same
      · exact .inr ⟨_, word, diagnostic, stops.afterLine⟩
    | word first =>
      by_cases enough : (context.classify .standard first).diagnostic.toList.length ≤ room
      next =>
        have accepted : (context.classify .standard first).diagnostic = none ∨
            some room ≠ some 0 := by
          cases found : (context.classify .standard first).diagnostic with
          | none => exact .inl rfl
          | some diagnostic =>
            right
            rintro ⟨⟩
            simp [found] at enough
        have goesOn := run_word_accepted .standard context (some room) first rest accepted
        have used := Nat.add_sub_cancel' enough
        rcases ih (context.classify .standard first).context
          (room - (context.classify .standard first).diagnostic.toList.length) with
          ⟨few, same⟩ | ⟨read, word, diagnostic, stops⟩
        · left
          rw [goesOn, Option.map_some, same, run_word, Run.after, List.length_append]
          exact ⟨by omega, rfl⟩
        · exact .inr ⟨_, word, diagnostic, stops.afterWord used goesOn⟩
      next =>
        right
        cases found : (context.classify .standard first).diagnostic with
        | none => simp [found] at enough
        | some diagnostic =>
          obtain rfl : room = 0 := by simpa [found] using enough
          refine ⟨[], first, diagnostic, by simp, rfl, found, ?_⟩
          simp only [run, found]
          rfl

namespace StopsAt

variable {context : Context} {room : Nat} {events read : List Event} {word : Word}
  {diagnostic : Diagnostic} (stops : context.StopsAt room events read word diagnostic)

include stops

theorem throughWord :
    (context.run .standard none (read ++ [.word word])).context =
        (context.run .standard (some room) events).context ∧
      (context.run .standard none (read ++ [.word word])).tokens =
        (context.run .standard none read).tokens ++ [word.token .error] ∧
      (context.run .standard none (read ++ [.word word])).diagnostics =
        (context.run .standard none read).diagnostics ++ [diagnostic] := by
  obtain ⟨-, token, -⟩ := of_diagnostic _ word diagnostic stops.found
  rw [run_append, stops.stopped]
  simp [Run.andThen, Run.after, Run.stopped, token, stops.found]

theorem whole :
    ∃ later : Run,
      (context.run .standard none events).tokens =
        (context.run .standard none read).tokens ++ word.token .error :: later.tokens ∧
      (context.run .standard none events).diagnostics =
        (context.run .standard none read).diagnostics ++ diagnostic :: later.diagnostics := by
  obtain ⟨rest, whole⟩ := stops.reached
  obtain ⟨-, tokens, diagnostics⟩ := stops.throughWord
  rw [← whole, run_append]
  refine ⟨run .standard none (run .standard none context (read ++ [.word word])).context rest, ?_⟩
  simp [Run.andThen, tokens, diagnostics]

theorem lt_length : room < (context.run .standard none events).diagnostics.length := by
  obtain ⟨later, -, diagnostics⟩ := stops.whole
  rw [diagnostics, List.length_append, List.length_cons, stops.full]
  omega

theorem getElem? : (context.run .standard none events).diagnostics[room]? = some diagnostic := by
  obtain ⟨later, -, diagnostics⟩ := stops.whole
  simp [diagnostics, ← stops.full]

theorem take : (context.run .standard none events).diagnostics.take room =
    (context.run .standard none read).diagnostics := by
  obtain ⟨later, -, diagnostics⟩ := stops.whole
  simp [diagnostics, ← stops.full]

theorem take_succ : (context.run .standard none events).diagnostics.take (room + 1) =
    (context.run .standard none read).diagnostics ++ [diagnostic] := by
  rw [List.take_add_one, stops.take, stops.getElem?]
  rfl

theorem cut :
    (context.run .standard (some room) events).refused = some diagnostic ∧
      (context.run .standard (some room) events).tokens =
        (context.run .standard none read).tokens ∧
      (context.run .standard (some room) events).diagnostics =
        (context.run .standard none read).diagnostics ++ [diagnostic] := by
  rw [stops.stopped]
  simp [Run.andThen, Run.stopped]

theorem settled : (context.run .standard (some room) events).context.state.expecting = false := by
  obtain ⟨context, -⟩ := of_diagnostic _ word diagnostic stops.found
  rw [stops.stopped]
  simp [Run.andThen, Run.stopped, context]

end StopsAt

end Context

namespace Scanner

variable (source file : Text)

theorem feed_listening (events : List Event) :
    (fresh source file (some {})).feed events =
      ((fresh source file (some {})).absorb (Context.run .standard none {} events), none) :=
  feed_unbounded _ rfl rfl events

theorem feed_limited (limit : Nat) (events : List Event) :
    (fresh source file (some { limit := some limit })).feed events =
      ((fresh source file (some { limit := some limit })).absorb
          (Context.run .standard (some limit) {} events),
        (Context.run .standard (some limit) {} events).refused.map .refused) :=
  rfl

theorem scan_cut (limit : Nat) (nonempty : source ≠ []) (nulFree : '\x00' ∉ source) :
    let listening := fresh source file (some {})
    let whole := listening.scan
    let cut := (fresh source file (some { limit := some limit })).scan
    whole.2 = none ∧
      (whole.1.diagnostics.length ≤ limit →
        cut = ({ whole.1 with
          sink := some { limit := some limit, received := whole.1.diagnostics } }, none)) ∧
      ∀ refused, whole.1.diagnostics[limit]? = some refused →
        cut.2 = some (.refused refused) ∧
        cut.1.diagnostics = whole.1.diagnostics.take (limit + 1) ∧
        cut.1.sink = some
          { limit := some limit, received := whole.1.diagnostics.take (limit + 1) } ∧
        cut.1.context.state.expecting = false ∧
        ∃ read word later, read ++ [.word word] <+: source.events ∧
          refused.word = word.text ∧ refused.span = word.span ∧
          (listening.feed read).1.diagnostics = whole.1.diagnostics.take limit ∧
          cut.1.tokens = (listening.feed read).1.tokens ∧
          whole.1.tokens = cut.1.tokens ++ word.token .error :: later ∧
          cut.1.context = (listening.feed (read ++ [.word word])).1.context := by
  simp only [scan_fresh_eq_feed source file _ nonempty nulFree, feed_listening, feed_limited]
  simp only [fresh, absorb, Sink.receive, List.nil_append, Option.map_some, true_and]
  have bounded := Context.run_bounded {} limit source.events
  constructor
  · intro few
    rcases bounded with ⟨-, same⟩ | ⟨read, word, diagnostic, stops⟩
    · rw [same, Context.run_not_refused]
      rfl
    · have many := stops.lt_length
      omega
  · intro refused found
    rcases bounded with ⟨few, -⟩ | ⟨read, word, diagnostic, stops⟩
    · rw [List.getElem?_eq_none few] at found
      contradiction
    · obtain rfl : diagnostic = refused := Option.some.inj (stops.getElem?.symm.trans found)
      obtain ⟨later, tokens, -⟩ := stops.whole
      obtain ⟨through, -, -⟩ := stops.throughWord
      obtain ⟨-, -, problem, same⟩ := Context.of_diagnostic _ word diagnostic stops.found
      obtain ⟨halted, withheld, noted⟩ := stops.cut
      rw [halted, withheld, noted, stops.take_succ]
      exact ⟨rfl, rfl, rfl, stops.settled, read, word, later.tokens, stops.reached,
        by rw [same]; rfl, by rw [same]; rfl, stops.take.symm, rfl, tokens, through.symm⟩

end Scanner

namespace Machine

def scanWith (source file : Text) (sink : Sink) : Machine × Option Halt :=
  (scan id).outcome { source, file, sink := some sink }

def feedWith (source file : Text) (sink : Sink) (events : List Event) : Machine :=
  ((feed id events).outcome { source, file, sink := some sink }).1

variable (source file : Text)

theorem scanWith_eq (sink : Sink) :
    scanWith source file sink =
      ((Scanner.fresh source file (some sink)).scan.1.machine,
        (Scanner.fresh source file (some sink)).scan.2) :=
  Scanner.outcome_scan id (.fresh source file (some sink)) rfl

theorem feedWith_eq (sink : Sink) (events : List Event) :
    feedWith source file sink events =
      ((Scanner.fresh source file (some sink)).feed events).1.machine :=
  congrArg Prod.fst (Scanner.outcome_feed id (.fresh source file (some sink)) rfl events)

-- The handler that is cut short leaves the registers as it does when it comes to its end.
theorem scan_cut_at_refusal (limit : Nat) (nonempty : source ≠ []) (nulFree : '\x00' ∉ source) :
    (scanWith source file {}).2 = none ∧
      ((scanWith source file {}).1.diagnostics.length ≤ limit →
        scanWith source file { limit := some limit } =
          ({ (scanWith source file {}).1 with
              sink := some { limit := some limit
                             received := (scanWith source file {}).1.diagnostics } }, none)) ∧
      ∀ refused, (scanWith source file {}).1.diagnostics[limit]? = some refused →
        ∃ cut, scanWith source file { limit := some limit } = (cut, some (.refused refused)) ∧
          cut.diagnostics = (scanWith source file {}).1.diagnostics.take (limit + 1) ∧
          cut.sink = some { limit := some limit, received := cut.diagnostics } ∧
          cut.registers.expecting = false ∧
          ∃ read word later, read ++ [.word word] <+: source.events ∧
            refused.word = word.text ∧ refused.span = word.span ∧
            (feedWith source file {} read).diagnostics =
              (scanWith source file {}).1.diagnostics.take limit ∧
            cut.tokens = (feedWith source file {} read).tokens ∧
            (scanWith source file {}).1.tokens = cut.tokens ++ word.token .error :: later ∧
            cut.registers = (feedWith source file {} (read ++ [.word word])).registers ∧
            cut.declared = (feedWith source file {} (read ++ [.word word])).declared := by
  simp only [scanWith_eq, feedWith_eq]
  obtain ⟨finished, within, beyond⟩ := Scanner.scan_cut source file limit nonempty nulFree
  refine ⟨finished, ?_, ?_⟩
  · intro few
    rw [within few]
    rfl
  · intro refused found
    obtain ⟨halted, noted, received, settled, read, word, later, reached, text, span, before,
      tokens, whole, after⟩ := beyond refused found
    refine ⟨(Scanner.fresh source file (some { limit := some limit })).scan.1.machine,
      by rw [halted], noted, ?_, settled, read, word, later, reached, text, span, before,
      tokens, whole, congrArg (·.state.registers) after, congrArg (·.declared) after⟩
    exact received.trans (by rw [← noted]; rfl)

theorem scan_cut_after_keyword :
    let source : Text := "x int 3a y \"s\" z".toList
    (scanWith source defaultFile {}).1.diagnostics.length = 4 ∧
      ∃ cut refused, refused.problem = .expectedName ∧
        scanWith source defaultFile { limit := some 1 } = (cut, some (.refused refused)) ∧
        cut.registers.expecting = false := by
  intro source
  let word : Word := .startingAt { line := 1, column := 7 } "3a".toList
  have found : (scanWith source defaultFile {}).1.diagnostics[1]? =
      some (word.diagnostic .expectedName) := by
    decide +kernel
  obtain ⟨-, -, beyond⟩ := scan_cut_at_refusal source defaultFile 1 (by decide) (by decide)
  obtain ⟨cut, halted, -, -, settled, -⟩ := beyond _ found
  exact ⟨by decide +kernel, cut, _, rfl, halted, settled⟩

end Machine

end LineLexer
