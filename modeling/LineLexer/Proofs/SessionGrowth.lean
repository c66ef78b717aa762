import LineLexer.Proofs.FreshScan
import LineLexer.Proofs.TableIndependence

set_option autoImplicit false

namespace LineLexer

theorem Placed.stop_eq {word : Word} {before after : Option OpenLiteral} {token? : Option Token}
    (placed : Placed word before token? after) (token : Token) (emitted : token ∈ token?) :
    token.span.stop = word.span.stop := by
  cases placed with
  | added => simp at emitted
  | _ =>
    obtain rfl := Option.some.inj emitted
    rfl

theorem Placed.open_of_silent {word : Word} {before after : Option OpenLiteral}
    (placed : Placed word before none after) : after.isSome = true := by
  cases placed
  rfl

theorem Context.mem_declared_run_of_mem (room : Option Nat) (context : Context)
    (events : List Event) (name : Text) (known : name ∈ context.declared) :
    name ∈ (context.run .standard room events).context.declared := by
  induction events generalizing room context with
  | nil => exact known
  | cons event rest ih =>
    cases event with
    | line => exact ih room context.newLine known
    | word word =>
      have next := (context.mem_declared_classify word name).mpr (.inl known)
      rcases context.run_word_cases .standard room word rest with
        ⟨diagnostic, -, run⟩ | ⟨left, run⟩
      · rw [run]
        exact next
      · rw [run]
        exact ih left _ next

namespace Scanner

def Noting (scanner : Scanner) : Prop :=
  ∃ sink, scanner.sink = some sink ∧ sink.received = scanner.diagnostics

theorem Noting.perform {scanner : Scanner} (noting : scanner.Noting) (command : Command) :
    (scanner.perform command).1.Noting := by
  obtain ⟨sink, found, same⟩ := noting
  rw [perform_eq_feed]
  simp [Noting, feed, absorb, found, Sink.receive, same]

def record (scanner : Scanner) : List Text :=
  ((scanner.sink.map Sink.received).getD []).map Diagnostic.word

-- Everything that a scanner has gathered is still there, with more behind it.
structure Extends (before after : Scanner) : Prop where
  tokens : before.tokens <+: after.tokens
  diagnostics : before.diagnostics <+: after.diagnostics
  record : before.record <+: after.record
  declared : ∀ name ∈ before.context.declared, name ∈ after.context.declared

theorem feed_extends (scanner : Scanner) (standard : scanner.grammar = .standard)
    (events : List Event) : scanner.Extends (scanner.feed events).1 where
  tokens := List.prefix_append _ _
  diagnostics := List.prefix_append _ _
  record := by
    simp only [record, feed, absorb]
    cases scanner.sink with
    | none => exact List.prefix_refl _
    | some sink =>
      simp only [Option.map_some, Option.getD_some, Sink.receive, List.map_append]
      exact List.prefix_append _ _
  declared name known := by
    simp only [feed, absorb, standard]
    exact Context.mem_declared_run_of_mem _ _ _ _ known

theorem perform_extends (scanner : Scanner) (standard : scanner.grammar = .standard)
    (command : Command) : scanner.Extends (scanner.perform command).1 := by
  rw [perform_eq_feed]
  exact scanner.feed_extends standard _

def Performed (before after : Scanner) (reply : Reply) : Command → Prop
  | .scan =>
    ((∃ error, reply = .halted (.rejected error)) ↔ before.source = [] ∨ '\x00' ∈ before.source) ∧
      ((∃ error, reply = .halted (.rejected error)) → after = before)
  | .word word =>
    ∃ emitted, after.tokens = before.tokens ++ emitted ∧ emitted.length ≤ 1 ∧
      (∀ token ∈ emitted, token.span.stop = word.span.stop) ∧
      ((∃ diagnostic, reply = .halted (.refused diagnostic)) ∧ emitted = [] ∨
        reply = .classified emitted ∧ (emitted = [] → after.context.state.inString = true))
  | .render _ => after = before
  | .dump => after = before

theorem performed_scan (scanner : Scanner) :
    Performed scanner (scanner.perform .scan).1 (scanner.perform .scan).2 .scan := by
  have accepts := scanner.source.inputError?_eq_none_iff
  simp only [Performed, perform, scan]
  cases found : scanner.source.inputError? with
  | some error =>
    have unfit : scanner.source = [] ∨ '\x00' ∈ scanner.source := by
      by_contra fit
      have accepted := accepts.mpr (not_or.mp fit)
      simp [accepted] at found
    simp [unfit]
  | none =>
    obtain ⟨nonempty, nulFree⟩ := accepts.mp found
    cases fed : scanner.feed scanner.source.events with
    | mk after halt =>
      cases halt with
      | none => simp [nonempty, nulFree]
      | some halt =>
        obtain ⟨diagnostic, -, rfl⟩ := Option.map_eq_some_iff.mp (congrArg Prod.snd fed)
        simp [nonempty, nulFree]

theorem performed_word (scanner : Scanner) (standard : scanner.grammar = .standard) (word : Word) :
    Performed scanner (scanner.perform (.word word)).1 (scanner.perform (.word word)).2
      (.word word) := by
  have placed := scanner.context.placed word
  simp only [Performed, perform, classify, feed, standard]
  rcases scanner.context.run_word_cases .standard scanner.room word [] with
    ⟨diagnostic, -, run⟩ | ⟨left, run⟩
  · rw [run]
    exact ⟨[], by simp [absorb, Run.stopped], by simp, by simp, .inl ⟨⟨diagnostic, rfl⟩, rfl⟩⟩
  · rw [run]
    refine ⟨(scanner.context.classify .standard word).token.toList, ?_, ?_, ?_, .inr ⟨?_, ?_⟩⟩
    · simp [absorb, Run.after]
    · cases (scanner.context.classify .standard word).token <;> simp
    · intro token emitted
      exact placed.stop_eq token (Option.mem_toList.mp emitted)
    · simp [absorb, Run.after]
    · intro silent
      rw [Option.toList_eq_nil_iff.mp silent] at placed
      exact placed.open_of_silent

theorem performed (scanner : Scanner) (standard : scanner.grammar = .standard)
    (command : Command) :
    Performed scanner (scanner.perform command).1 (scanner.perform command).2 command := by
  cases command with
  | scan => exact scanner.performed_scan
  | word word => exact scanner.performed_word standard word
  | render format =>
    simp only [Performed, perform]
    split <;> rfl
  | dump => rfl

end Scanner

namespace Session

inductive Reachable : Session → Prop where
  | start : Reachable []
  | create (session : Session) (name source file : Text) (limit : Option Nat)
      (reached : Reachable session) :
    Reachable (session.step (.create name (Scanner.fresh source file (some { limit })))).1
  | perform (session : Session) (name : Text) (command : Command) (reached : Reachable session) :
    Reachable (session.step (.perform name command)).1

theorem step_perform (session : Session) (name : Text) (command : Command) (scanner : Scanner)
    (found : session.get? name = some scanner) :
    session.step (.perform name command) =
      (session.put name (scanner.perform command).1, (scanner.perform command).2) := by
  simp [step, found]

theorem get?_step_of_ne (session : Session) (request : Request) (other : Text)
    (apart : other ≠ request.name) : (session.step request).1.get? other = session.get? other := by
  cases request with
  | create name scanner => exact Table.get?_put_of_ne session name other scanner apart
  | perform name command =>
    cases found : session.get? name with
    | none => simp [step, found]
    | some scanner =>
      rw [session.step_perform name command scanner found]
      exact Table.get?_put_of_ne session name other _ apart

theorem Reachable.scanner {session : Session} (reached : session.Reachable) (name : Text)
    (scanner : Scanner) (found : session.get? name = some scanner) :
    scanner.Reachable ∧ scanner.Noting := by
  induction reached generalizing name scanner with
  | start => simp [Table.get?] at found
  | create session created source file limit reached ih =>
    by_cases same : name = created
    next =>
      subst same
      rw [step, Table.get?_put_self] at found
      obtain rfl := Option.some.inj found
      exact ⟨.fresh source file _, _, rfl, rfl⟩
    next =>
      rw [get?_step_of_ne _ _ _ same] at found
      exact ih name scanner found
  | perform session performed command reached ih =>
    by_cases same : name = performed
    next =>
      subst same
      cases before : session.get? name with
      | none => simp [step, before] at found
      | some old =>
        obtain ⟨oldReached, noting⟩ := ih name old before
        rw [session.step_perform name command old before, Table.get?_put_self] at found
        obtain rfl := Option.some.inj found
        exact ⟨.perform old command oldReached, noting.perform command⟩
    next =>
      rw [get?_step_of_ne _ _ _ same] at found
      exact ih name scanner found

theorem step_only_extends {session : Session} (reached : session.Reachable) (request : Request) :
    let next := (session.step request).1
    let reply := (session.step request).2
    (∀ other, other ≠ request.name → next.get? other = session.get? other) ∧
    (∀ name command, request = .perform name command →
      (session.get? name = none → next = session) ∧
      ∀ scanner, session.get? name = some scanner →
        ∃ after, next.get? name = some after ∧ scanner.Extends after ∧
          scanner.Performed after reply command) ∧
    ∀ name scanner, session.get? name = some scanner →
      scanner.record = scanner.diagnostics.map Diagnostic.word := by
  refine ⟨session.get?_step_of_ne request, ?_, ?_⟩
  · rintro name command rfl
    constructor
    · intro missing
      simp [step, missing]
    · intro scanner found
      have standard := (reached.scanner name scanner found).1.grammar_eq
      rw [session.step_perform name command scanner found]
      exact ⟨_, Table.get?_put_self session name _, scanner.perform_extends standard command,
        scanner.performed standard command⟩
  · intro name scanner found
    obtain ⟨-, sink, given, same⟩ := reached.scanner name scanner found
    simp [Scanner.record, given, same]

def besideRefusal : Session :=
  let first := step [] (.create ['a']
    (.fresh "int b x y".toList defaultFile (some { limit := some 0 })))
  let second := step first.1 (.create ['b'] (.fresh "\x00".toList defaultFile (some {})))
  (step second.1 (.perform ['a'] .scan)).1

theorem besideRefusal_extended :
    let word := Word.startingAt { line := 7, column := 3 } "\"s".toList
    let next := (besideRefusal.step (.perform ['a'] (.word word))).1
    besideRefusal.Reachable ∧ next.get? ['b'] = besideRefusal.get? ['b'] ∧
      ∃ scanner after, besideRefusal.get? ['a'] = some scanner ∧ next.get? ['a'] = some after ∧
        scanner.record = ["x".toList] ∧ scanner.tokens.length = 2 ∧ scanner.Extends after ∧
        after.context.state.inString = true := by
  intro word next
  have reached : besideRefusal.Reachable :=
    .perform _ _ _ (.create _ _ _ _ _ (.create _ _ _ _ _ .start))
  obtain ⟨others, performed, noted⟩ := step_only_extends reached (.perform ['a'] (.word word))
  have found : besideRefusal.get? ['a'] = some
      ((Scanner.fresh "int b x y".toList defaultFile (some { limit := some 0 })).perform .scan).1 :=
    rfl
  obtain ⟨after, same, grown, -⟩ := (performed ['a'] _ rfl).2 _ found
  refine ⟨reached, others ['b'] (by decide), _, after, found, same, ?_, ?_, grown, ?_⟩
  · rw [noted ['a'] _ found]
    decide +kernel
  · decide +kernel
  · have opened : (next.get? ['a']).map (·.context.state.inString) = some true := by
      decide +kernel
    simpa [next, same] using opened

end Session

end LineLexer
