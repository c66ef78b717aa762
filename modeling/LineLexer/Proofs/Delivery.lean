import LineLexer.Proofs.Endings
import LineLexer.Proofs.FileWrites
import Mathlib.Control.Monad.Basic

set_option autoImplicit false

namespace LineLexer.CommandLine

def Options.Lists (options : Options) (tree : FileTree) (stdin : Bytes) (listing : Text) : Prop :=
  ∃ content text scanner format, options.content tree stdin = .ok content ∧
    Utf8.decode content = .ok text ∧
    (Scanner.fresh text.universalNewlines options.displayName none).scan = (scanner, none) ∧
    options.format = .chosen format ∧ Listing.render scanner.tokens format = listing

structure Outcome.Withholds (outcome : Outcome) (tree : FileTree) : Prop where
  stdout : outcome.stdout = []
  tree : outcome.tree = tree

structure Outcome.Delivers (outcome : Outcome) (options : Options) (tree : FileTree)
    (listing : Text) : Prop where
  shown : options.output = none → outcome.stdout = listing ∧ outcome.tree = tree
  written : ∀ path, options.output = some path →
    outcome.stdout = [] ∧ tree.Replaced outcome.tree path listing.utf8

inductive ConfigError.Ends (error : ConfigError) : Ending → Text → Prop
  | reported (reported : error.failure? = none) :
      Ends error (.returned 2) (errorLine error.message)
  | escaped (failure : Failure) (escapes : error.failure? = some failure) :
      Ends error (.failed failure) []

variable {arguments : Arguments} {options : Options} {tree : FileTree} {stdin : Bytes}

theorem Listable.lists {scanner : Scanner} {format : Format}
    (listable : Listable arguments tree stdin options scanner)
    (chosen : options.format = .chosen format) :
    options.Lists tree stdin (Listing.render scanner.tokens format) := by
  obtain ⟨source, read, scanned⟩ := listable.scanned
  obtain ⟨content, text, found, decoded, rfl⟩ :=
    (options.source_eq_ok_iff tree stdin source).mp read
  have finished := (Text.scanned_eq_ok_iff _ _ scanner).mp scanned
  exact ⟨content, text, scanner, format, found, decoded, finished, chosen, rfl⟩

theorem Ran.withholds {outcome : Outcome} (ran : Ran arguments tree stdin outcome)
    (unsuccessful : outcome.ending ≠ .returned 0) : outcome.Withholds tree := by
  cases ran with
  | shown => exact absurd rfl unsuccessful
  | written => exact absurd rfl unsuccessful
  | _ => exact ⟨rfl, rfl⟩

theorem Ran.delivers {outcome : Outcome} (ran : Ran arguments tree stdin outcome)
    (successful : outcome.ending = .returned 0) :
    ∃ options listing, arguments.resolve tree = .ok options ∧
      options.Lists tree stdin listing ∧ outcome.Delivers options tree listing := by
  cases ran with
  | shown options scanner format listable chosen shown =>
    have lists := listable.lists chosen
    refine ⟨options, _, listable.resolved, lists, fun _ => ⟨rfl, rfl⟩, ?_⟩
    intro path output
    simp [shown] at output
  | written options scanner format path after listable chosen output nulFree written =>
    have lists := listable.lists chosen
    refine ⟨options, _, listable.resolved, lists, ?_, ?_⟩
    · intro shown
      simp [shown] at output
    · intro other same
      obtain rfl : path = other := Option.some.inj (output.symm.trans same)
      exact ⟨rfl, FileTree.replaced_of_write path _ written⟩
  | _ => simp at successful

theorem Arguments.run_of_unresolved (error : ConfigError)
    (unresolved : arguments.resolve tree = .error error) :
    ∃ ending stderr, error.Ends ending stderr ∧
      ∀ other input, other.regular? arguments.configPath = tree.regular? arguments.configPath →
        arguments.run other input = { ending, stderr, tree := other } := by
  have again (other : FileTree)
      (same : other.regular? arguments.configPath = tree.regular? arguments.configPath) :
      arguments.resolve other = .error error := by
    rw [← unresolved, Arguments.resolve, Arguments.resolve, same]
  cases escapes : error.failure? with
  | some failure =>
    refine ⟨_, _, .escaped failure escapes, ?_⟩
    intro other input same
    simp [Arguments.run, again other same, escapes]
  | none =>
    refine ⟨_, _, .reported escapes, ?_⟩
    intro other input same
    simp [Arguments.run, again other same, escapes]

theorem run_all_or_nothing (release : Release) (argv : List Text) (tree : FileTree)
    (stdin : Bytes) (unhelped : parse release argv ≠ .error .help) :
    let outcome := run release argv tree stdin
    (outcome.ending ≠ .returned 0 → outcome.Withholds tree) ∧
    (outcome.ending = .returned 0 → ∃ arguments options listing,
      parse release argv = .ok arguments ∧ arguments.resolve tree = .ok options ∧
      options.Lists tree stdin listing ∧ outcome.Delivers options tree listing) ∧
    ∀ arguments error, parse release argv = .ok arguments → arguments.resolve tree = .error error →
      ∃ ending stderr, error.Ends ending stderr ∧
        ∀ other input, other.regular? arguments.configPath = tree.regular? arguments.configPath →
          run release argv other input = { ending, stderr, tree := other } := by
  cases parsed : parse release argv with
  | error stop =>
    cases stop with
    | help => exact absurd parsed unhelped
    | error error => simpa [run, parsed] using (⟨rfl, rfl⟩ : Outcome.Withholds _ _)
  | ok arguments =>
    have ran := arguments.ran tree stdin
    have whole (other : FileTree) (input : Bytes) :
        run release argv other input = arguments.run other input := by
      simp only [run, parsed]
    simp only [whole]
    refine ⟨ran.withholds, ?_, ?_⟩
    · intro successful
      obtain ⟨options, listing, resolved, lists, delivers⟩ := ran.delivers successful
      exact ⟨arguments, options, listing, rfl, resolved, lists, delivers⟩
    · rintro _ error ⟨⟩ unresolved
      exact Arguments.run_of_unresolved error unresolved

theorem run_over_its_input :
    let source : Text := "int x ;\r\n".toList
    let config : Text := "output.format = 'text'".toList
    let listing : Text := "< int, Reserved >\n< x, Identifier >\n< ;, Delimiter >\n".toList
    let tree : FileTree :=
      { files :=
          [({ parts := ["a.cs".toList] }, source.utf8),
            ({ parts := ["lexscan.toml".toList] }, config.utf8)] }
    let argv := ["a.cs".toList, "-o".toList, "a.cs".toList]
    let outcome := run .later argv tree []
    parse .later argv ≠ .error .help ∧ outcome.ending = .returned 0 ∧ outcome.stdout = [] ∧
      tree.Replaced outcome.tree (.of "a.cs".toList) listing.utf8 := by
  intro source config listing tree argv outcome
  have parsed : parse .later argv =
      .ok { input := "a.cs".toList, output := some "a.cs".toList } := by
    decide +kernel
  have unhelped : parse .later argv ≠ .error .help := by simp [parsed]
  have returned : outcome.ending = .returned 0 := by decide +kernel
  obtain ⟨-, delivered, -⟩ := run_all_or_nothing .later argv tree [] unhelped
  obtain ⟨arguments, options, found, same, resolved, lists, delivers⟩ := delivered returned
  obtain rfl := Except.ok.inj (parsed.symm.trans same)
  have output : options.output = some (.of "a.cs".toList) := by
    obtain ⟨config, -, rfl⟩ := (Arguments.resolve_eq_ok_iff _ tree options).mp resolved
    rfl
  obtain ⟨silent, replaced⟩ := delivers.written _ output
  have shown : outcome.tree.read (.of "a.cs".toList) = .ok listing.utf8 := by decide +kernel
  have bytes : found.utf8 = listing.utf8 := Except.ok.inj (replaced.readBack.symm.trans shown)
  exact ⟨unhelped, returned, silent, bytes ▸ replaced⟩

end LineLexer.CommandLine
