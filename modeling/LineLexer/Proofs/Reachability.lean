import LineLexer.Proofs.Classification
import LineLexer.Session

set_option autoImplicit false

namespace LineLexer

structure Maintained (Holds : Context → List Token → List Diagnostic → Prop) : Prop where
  line (context : Context) (tokens : List Token) (diagnostics : List Diagnostic) :
    Holds context tokens diagnostics → Holds context.newLine tokens diagnostics
  word (context : Context) (tokens : List Token) (diagnostics : List Diagnostic) (word : Word) :
    Holds context tokens diagnostics →
      Holds (context.classify .standard word).context
        (tokens ++ (context.classify .standard word).token.toList)
        (diagnostics ++ (context.classify .standard word).diagnostic.toList)

-- A word whose diagnostic is refused has its token withheld.
def SurvivesRefusal (Holds : Context → List Token → List Diagnostic → Prop) : Prop :=
  ∀ (context : Context) (tokens : List Token) (diagnostics : List Diagnostic) (word : Word)
    (diagnostic : Diagnostic), Holds context tokens diagnostics →
      (context.classify .standard word).diagnostic = some diagnostic →
      Holds (context.classify .standard word).context tokens (diagnostics ++ [diagnostic])

theorem Maintained.run {Holds : Context → List Token → List Diagnostic → Prop}
    (kept : Maintained Holds) (room : Option Nat) (refusals : room = none ∨ SurvivesRefusal Holds)
    (context : Context) (tokens : List Token) (diagnostics : List Diagnostic)
    (events : List Event) (start : Holds context tokens diagnostics) :
    Holds (context.run .standard room events).context
      (tokens ++ (context.run .standard room events).tokens)
      (diagnostics ++ (context.run .standard room events).diagnostics) := by
  induction events generalizing room context tokens diagnostics with
  | nil => simpa [Context.run] using start
  | cons event rest ih =>
    cases event with
    | line =>
      simp only [Context.run]
      exact ih room refusals context.newLine tokens diagnostics (kept.line _ _ _ start)
    | word word =>
      have next := kept.word _ _ _ word start
      simp only [Context.run]
      split
      next diagnostic found =>
        have survives := refusals.resolve_left (by simp)
        simpa [Run.stopped] using survives _ _ _ _ _ start found
      next diagnostic left found =>
        have survives := refusals.resolve_left (by simp)
        simpa [Run.after] using ih (some left) (.inr survives) _ _ _ next
      next => simpa [Run.after] using ih _ refusals _ _ _ next

def Command.events (source : Text) : Command → List Event
  | .scan => if source.inputError?.isSome then [] else source.events
  | .word given => [.word given]
  | .render _ => []
  | .dump => []

namespace Scanner

theorem feed_nil (scanner : Scanner) : scanner.feed [] = (scanner, none) := by
  obtain ⟨source, file, grammar, sink, context, tokens, diagnostics⟩ := scanner
  cases sink <;> simp [feed, absorb, Context.run, Sink.receive]

theorem perform_eq_feed (scanner : Scanner) (command : Command) :
    (scanner.perform command).1 = (scanner.feed (command.events scanner.source)).1 := by
  cases command with
  | scan =>
    simp only [perform, scan, Command.events]
    cases scanner.source.inputError? with
    | some error => simp [feed_nil]
    | none =>
      simp only [Option.isSome_none, Bool.false_eq_true, if_false]
      split <;> simp_all
  | word word =>
    simp only [perform, classify, Command.events]
    split <;> simp_all
  | render format =>
    simp only [perform, Command.events, feed_nil]
    split <;> rfl
  | dump => simp [perform, Command.events, feed_nil]

theorem perform_silent (scanner : Scanner) (silent : scanner.sink = none) (command : Command) :
    (scanner.perform command).1.sink = none := by
  simp [perform_eq_feed, feed, absorb, silent]

def fresh (source file : Text) (sink : Option Sink) : Scanner :=
  { source, file, sink }

def after (scanner : Scanner) (commands : List Command) : Scanner :=
  commands.foldl (fun scanner command => (scanner.perform command).1) scanner

-- The sink may be exchanged between two commands: one command meets one refusal at most, so a
-- receiver that refuses as it likes is some limit for each command.
inductive Reachable : Scanner → Prop where
  | fresh (source file : Text) (sink : Option Sink) : Reachable (fresh source file sink)
  | exchange (scanner : Scanner) (sink : Option Sink) (reached : Reachable scanner) :
    Reachable { scanner with sink }
  | perform (scanner : Scanner) (command : Command) (reached : Reachable scanner) :
    Reachable (scanner.perform command).1
  | midway (scanner : Scanner) (events : List Event) (begun : events <+: scanner.source.events)
      (reached : Reachable scanner) :
    Reachable (scanner.feed events).1

theorem Reachable.grammar_eq {scanner : Scanner} (reached : scanner.Reachable) :
    scanner.grammar = .standard := by
  induction reached with
  | fresh => rfl
  | exchange scanner sink reached ih => exact ih
  | perform scanner command reached ih =>
    rw [perform_eq_feed]
    exact ih
  | midway scanner events begun reached ih => exact ih

end Scanner

namespace Maintained

variable {Holds : Context → List Token → List Diagnostic → Prop} (kept : Maintained Holds)

include kept

theorem feed (scanner : Scanner) (events : List Event) (standard : scanner.grammar = .standard)
    (refusals : scanner.room = none ∨ SurvivesRefusal Holds)
    (holds : Holds scanner.context scanner.tokens scanner.diagnostics) :
    Holds (scanner.feed events).1.context (scanner.feed events).1.tokens
      (scanner.feed events).1.diagnostics := by
  have next := kept.run scanner.room refusals _ _ _ events holds
  simpa [Scanner.feed, Scanner.absorb, standard] using next

theorem reachable (survives : SurvivesRefusal Holds) (start : Holds {} [] [])
    {scanner : Scanner} (reached : scanner.Reachable) :
    Holds scanner.context scanner.tokens scanner.diagnostics := by
  induction reached with
  | fresh => exact start
  | exchange scanner sink reached ih => exact ih
  | perform scanner command reached ih =>
    rw [Scanner.perform_eq_feed]
    exact kept.feed scanner _ reached.grammar_eq (.inr survives) ih
  | midway scanner events begun reached ih =>
    exact kept.feed scanner events reached.grammar_eq (.inr survives) ih

theorem after (scanner : Scanner) (commands : List Command)
    (standard : scanner.grammar = .standard) (silent : scanner.sink = none)
    (holds : Holds scanner.context scanner.tokens scanner.diagnostics) :
    Holds (scanner.after commands).context (scanner.after commands).tokens
      (scanner.after commands).diagnostics := by
  induction commands generalizing scanner with
  | nil => exact holds
  | cons command rest ih =>
    refine ih (scanner.perform command).1 ?_ (scanner.perform_silent silent command) ?_
    · rw [Scanner.perform_eq_feed]
      exact standard
    · rw [Scanner.perform_eq_feed]
      exact kept.feed scanner _ standard (.inl (by simp [Scanner.room, silent])) holds

end Maintained

end LineLexer
