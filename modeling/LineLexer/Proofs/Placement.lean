import LineLexer.Proofs.FreshScan
import LineLexer.Proofs.SourceWords

set_option autoImplicit false

namespace LineLexer

structure Word.Follows (word : Word) (seen : List Word) : Prop where
  before : ∀ earlier ∈ seen, earlier.span.stop ≤ word.span.start
  wide : word.span.start < word.span.stop

theorem Word.Follows.stop_lt {word : Word} {seen : List Word} (follows : word.Follows seen)
    (earlier : Word) (member : earlier ∈ seen) : earlier.span.stop < word.span.stop :=
  lt_of_le_of_lt (follows.before earlier member) follows.wide

-- `seen` are the words read so far, in order, with the tokens and the open literal they have given.
def Placing (Holds : List Word → List Token → Option OpenLiteral → Prop) : Prop :=
  ∀ (seen : List Word) (tokens : List Token) (literal : Option OpenLiteral) (word : Word)
    (token? : Option Token) (literal' : Option OpenLiteral), Holds seen tokens literal →
      word.Follows seen → Placed word literal token? literal' →
      Holds (seen ++ [word]) (tokens ++ token?.toList) literal'

variable {Holds : List Word → List Token → Option OpenLiteral → Prop}

theorem Placing.run (placing : Placing Holds) (room : Option Nat) (context : Context)
    (events : List Event) (seen : List Word) (tokens : List Token)
    (start : Holds seen tokens context.state.literal)
    (ordered : (seen ++ events.filterMap Event.word?).Pairwise fun first second =>
      first.span.stop ≤ second.span.start)
    (wide : ∀ word ∈ events.filterMap Event.word?, word.span.start < word.span.stop) :
    ∃ read, read <+: events.filterMap Event.word? ∧
      Holds (seen ++ read) (tokens ++ (context.run .standard room events).tokens)
        (context.run .standard room events).context.state.literal ∧
      ((context.run .standard room events).refused = none →
        read = events.filterMap Event.word?) := by
  induction events generalizing room context seen tokens with
  | nil => exact ⟨[], List.prefix_refl _, by simpa using start, fun _ => rfl⟩
  | cons event rest ih =>
    cases event with
    | line => exact ih room context.newLine seen tokens start ordered wide
    | word word =>
      simp only [List.filterMap_cons, Event.word?, List.forall_mem_cons] at ordered wide ⊢
      have follows : word.Follows seen :=
        { before := fun earlier member =>
            (List.pairwise_append.mp ordered).2.2 earlier member word List.mem_cons_self
          wide := wide.1 }
      have next := placing seen tokens _ word _ _ start follows (context.placed word)
      rw [List.append_cons] at ordered
      rcases context.run_word_cases .standard room word rest with
        ⟨diagnostic, found, run⟩ | ⟨left, run⟩
      · obtain ⟨same, -⟩ := context.of_diagnostic word diagnostic found
        rw [run, same]
        exact ⟨[], List.nil_prefix, by simpa [Run.stopped] using start, by simp [Run.stopped]⟩
      · obtain ⟨read, begun, holds, whole⟩ := ih left _ _ _ next ordered wide.2
        rw [run]
        refine ⟨word :: read, List.cons_prefix_cons.mpr ⟨rfl, begun⟩, ?_, ?_⟩
        · simpa [Run.after] using holds
        · intro accepted
          rw [whole accepted]

namespace Scanner

variable (source file : Text) (sink : Option Sink) (nonempty : source ≠ [])
  (nulFree : '\x00' ∉ source)

include nonempty nulFree

theorem scan_fresh_eq_feed :
    (fresh source file sink).scan = (fresh source file sink).feed source.events := by
  have accepted : (fresh source file sink).source.inputError? = none :=
    source.inputError?_eq_none nonempty nulFree
  simp only [scan, accepted]
  rfl

theorem scan_fresh_not_rejected (error : InputError) :
    (fresh source file sink).scan.2 ≠ some (.rejected error) := by
  rw [scan_fresh_eq_feed source file sink nonempty nulFree]
  simp [feed]

theorem placing_scan (placing : Placing Holds) (start : Holds [] [] none) :
    ∃ read, read <+: source.sourceWords ∧
      Holds read (fresh source file sink).scan.1.tokens
        (fresh source file sink).scan.1.context.state.literal := by
  have ordered := source.sourceWords_pairwise
  have wide := source.start_lt_stop_of_mem_sourceWords
  rw [← source.words_events] at ordered wide
  obtain ⟨read, begun, holds, -⟩ := placing.run (fresh source file sink).room {} source.events
    [] [] start ordered wide
  rw [scan_fresh_eq_feed source file sink nonempty nulFree]
  exact ⟨read, source.words_events ▸ begun, holds⟩

end Scanner

end LineLexer
