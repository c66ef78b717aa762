import LineLexer.Proofs.StateInvariant

set_option autoImplicit false

namespace LineLexer

def Token.isNamed (name : Text) (token : Token) : Bool :=
  token.kind = .identifier ∧ token.value = name

theorem Token.isNamed_iff (name : Text) (token : Token) :
    token.isNamed name = true ↔ token.kind = .identifier ∧ token.value = name := by
  simp [Token.isNamed]

-- The first identifier of this name stands right after a keyword.
def Introduced (name : Text) (tokens : List Token) : Prop :=
  ∃ before keyword first later, tokens = before ++ keyword :: first :: later ∧
    keyword.kind = .reserved ∧ first.isNamed name = true ∧
    ∀ token ∈ before, token.isNamed name = false

theorem Introduced.append {name : Text} {tokens : List Token} (introduced : Introduced name tokens)
    (added : List Token) : Introduced name (tokens ++ added) := by
  obtain ⟨before, keyword, first, later, rfl, rest⟩ := introduced
  exact ⟨before, keyword, first, later ++ added, by simp, rest⟩

theorem introduced_last {name : Text} {tokens : List Token} {first : Token}
    (keyword : tokens.getLast?.map Token.kind = some .reserved) (found : first.isNamed name = true)
    (new : ∀ token ∈ tokens, token.isNamed name = false) : Introduced name (tokens ++ [first]) := by
  obtain ⟨last, ends, reserved⟩ := Option.map_eq_some_iff.mp keyword
  obtain ⟨before, rfl⟩ := List.getLast?_eq_some_iff.mp ends
  refine ⟨before, last, first, [], by simp, reserved, found, ?_⟩
  intro token member
  exact new token (List.mem_append_left _ member)

structure Tabled (declared : Names) (tokens : List Token) : Prop where
  members (name : Text) : name ∈ declared ↔ ∃ token ∈ tokens, token.isNamed name = true
  shaped : ∀ name ∈ declared, name.isIdentifier = true
  introduced : ∀ name ∈ declared, Introduced name tokens

namespace Tabled

variable {declared : Names} {tokens : List Token} (tabled : Tabled declared tokens)

include tabled

theorem append (token : Token) (known : token.kind = .identifier → token.value ∈ declared) :
    Tabled declared (tokens ++ [token]) where
  members name := by
    rw [tabled.members]
    constructor
    · rintro ⟨found, member, named⟩
      exact ⟨found, List.mem_append_left _ member, named⟩
    · rintro ⟨found, member, named⟩
      rcases List.mem_append.mp member with earlier | last
      · exact ⟨found, earlier, named⟩
      · obtain rfl := List.mem_singleton.mp last
        obtain ⟨identifier, rfl⟩ := (found.isNamed_iff name).mp named
        exact (tabled.members _).mp (known identifier)
  shaped := tabled.shaped
  introduced name member := (tabled.introduced name member).append [token]

theorem declare (word : Word) (shape : word.text.isIdentifier = true)
    (keyword : tokens.getLast?.map Token.kind = some .reserved) :
    Tabled (declared.insert word.text) (tokens ++ [word.token .identifier]) where
  members name := by
    have last : (word.token .identifier).isNamed name = true ↔ name = word.text := by
      simpa [Token.isNamed_iff] using eq_comm
    rw [Names.mem_insert, tabled.members, or_comm]
    simp [or_and_right, exists_or, last]
  shaped name member := by
    rcases (Names.mem_insert _ _ _).mp member with rfl | earlier
    · exact shape
    · exact tabled.shaped name earlier
  introduced name member := by
    by_cases known : name ∈ declared
    next => exact (tabled.introduced name known).append _
    next =>
      obtain rfl := ((Names.mem_insert _ _ _).mp member).resolve_right known
      refine introduced_last keyword (by simp [Token.isNamed]) ?_
      intro token earlier
      cases named : token.isNamed word.text with
      | false => rfl
      | true => exact absurd ((tabled.members _).mpr ⟨token, earlier, named⟩) known

end Tabled

theorem Tabled.classify {context : Context} {tokens : List Token}
    (tabled : Tabled context.declared tokens) (sound : context.Sound tokens) (word : Word) :
    Tabled (context.classify .standard word).context.declared
      (tokens ++ (context.classify .standard word).token.toList) := by
  have way := context.classified word
  generalize context.classify .standard word = effect at way ⊢
  cases way with
  | literalPart | literalHead => simpa using tabled
  | mark kind left shape =>
    apply tabled.append
    rcases Grammar.mark?_kind _ _ _ shape with rfl | rfl | rfl <;> simp
  | declared left expected shape =>
    exact tabled.declare word shape (sound.expecting expected).2.2.2
  | known left free notKeyword shape member => exact tabled.append _ fun _ => member
  | _ => exact tabled.append _ (by simp)

theorem Tabled.refused {context : Context} {tokens : List Token}
    (tabled : Tabled context.declared tokens) (word : Word) (diagnostic : Diagnostic)
    (found : (context.classify .standard word).diagnostic = some diagnostic) :
    Tabled (context.classify .standard word).context.declared tokens := by
  rw [(context.of_diagnostic word diagnostic found).1]
  exact tabled

namespace Context

theorem apply_declared (context : Context) (word : Word) (rule : Rule)
    (other : rule ≠ .declaration) :
    (context.apply word rule).context.declared = context.declared := by
  cases rule with
  | declaration => contradiction
  | literalPart =>
    simp only [apply, literalPart]
    split
    next => rfl
    next => split <;> rfl
  | literalHead =>
    simp only [apply, literalHead]
    split <;> rfl
  | use =>
    simp only [apply, use]
    split <;> rfl
  | _ => rfl

theorem classify_declared (grammar : Grammar) (context : Context) (word : Word)
    (other : grammar.ruleFor context.state word.text ≠ .declaration) :
    (context.classify grammar word).context.declared = context.declared := by
  rw [← apply_declared context word _ other]
  unfold classify
  split <;> rfl

theorem run_single (grammar : Grammar) (room : Option Nat) (context : Context) (word : Word) :
    (context.run grammar room [.word word]).context = (context.classify grammar word).context := by
  simp only [run]
  split <;> rfl

end Context

namespace Scanner

theorem Reachable.tabled {scanner : Scanner} (reached : scanner.Reachable) :
    Tabled scanner.context.declared scanner.tokens := by
  have kept : Maintained fun context tokens _ =>
      context.Sound tokens ∧ Tabled context.declared tokens := by
    refine ⟨?_, ?_⟩
    · rintro context tokens - ⟨sound, tabled⟩
      exact ⟨sound.newLine, tabled⟩
    · rintro context tokens - word ⟨sound, tabled⟩
      exact ⟨sound.classify word, tabled.classify sound word⟩
  have survives : SurvivesRefusal fun context tokens _ =>
      context.Sound tokens ∧ Tabled context.declared tokens := by
    rintro context tokens - word diagnostic ⟨sound, tabled⟩ found
    exact ⟨sound.refused word diagnostic found, tabled.refused word diagnostic found⟩
  have start : Tabled {} [] := by constructor <;> simp
  exact (kept.reachable survives ⟨Context.Sound.start, start⟩ reached).2

theorem reachable_table_of_tokens {scanner : Scanner} (reached : scanner.Reachable) :
    (∀ name, name ∈ scanner.context.declared ↔
      ∃ token ∈ scanner.tokens, token.kind = .identifier ∧ token.value = name) ∧
    (∀ name ∈ scanner.context.declared, name.isIdentifier = true) ∧
    (∀ name ∈ scanner.context.declared, ∃ before keyword first later,
      scanner.tokens = before ++ keyword :: first :: later ∧ keyword.kind = .reserved ∧
        first.kind = .identifier ∧ first.value = name ∧
        ∀ token ∈ before, token.kind = .identifier → token.value ≠ name) ∧
    ∀ word, scanner.grammar.ruleFor scanner.context.state word.text ∈
        [.literalHead, .literalPart, .commentHead, .commentBody, .directiveHead, .directiveBody] →
      (scanner.classify word).1.context.declared = scanner.context.declared := by
  have tabled := reached.tabled
  refine ⟨?_, tabled.shaped, ?_, ?_⟩
  · simpa [Token.isNamed] using tabled.members
  · intro name member
    obtain ⟨before, keyword, first, later, same, reserved, named, new⟩ :=
      tabled.introduced name member
    obtain ⟨identifier, value⟩ := (first.isNamed_iff name).mp named
    refine ⟨before, keyword, first, later, same, reserved, identifier, value, ?_⟩
    simpa [Token.isNamed] using new
  · intro word spanning
    have other : scanner.grammar.ruleFor scanner.context.state word.text ≠ .declaration := by
      intro declares
      simp [declares] at spanning
    have run := Context.run_single scanner.grammar scanner.room scanner.context word
    have kept := Context.classify_declared scanner.grammar scanner.context word other
    simpa [classify, feed, absorb, run] using kept

def refusedAfterName : Scanner :=
  ((fresh "int x y int z".toList defaultFile (some { limit := some 0 })).perform .scan).1

theorem refusedAfterName_table :
    let opening := Word.startingAt { line := 2, column := 1 } "\"int".toList
    refusedAfterName.context.declared.toList = ["x".toList] ∧
      (∃ token ∈ refusedAfterName.tokens, token.kind = .identifier ∧ token.value = "x".toList) ∧
      (refusedAfterName.classify opening).1.context.declared =
        refusedAfterName.context.declared := by
  have reached : refusedAfterName.Reachable := .perform _ _ (.fresh _ _ _)
  have table := reachable_table_of_tokens reached
  refine ⟨by decide +kernel, ?_, ?_⟩
  · exact (table.1 "x".toList).mp (by decide +kernel)
  · exact table.2.2.2 _ (by decide +kernel)

end Scanner

end LineLexer
