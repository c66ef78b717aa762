import LineLexer.Proofs.Accounting

set_option autoImplicit false

namespace LineLexer

namespace Token

-- A directive met in an open literal comes before the string around it; else tokens are apart.
def Precedes (earlier later : Token) : Prop :=
  earlier.span.stop ≤ later.span.start ∨
    later.kind = .string ∧ earlier.kind = .directive ∧
      later.span.start < earlier.span.start ∧ earlier.span.stop < later.span.stop

def Allows (start : Position) (token : Token) : Prop :=
  token.span.stop ≤ start ∨ token.kind = .directive ∧ start < token.span.start

end Token

structure Nested (tokens : List Token) (literal : Option OpenLiteral) : Prop where
  wide : ∀ token ∈ tokens, token.span.start < token.span.stop
  ends : tokens.Pairwise fun earlier later => earlier.span.stop < later.span.stop
  apart : tokens.Pairwise Token.Precedes
  around : ∀ opened ∈ literal, ∀ token ∈ tokens, token.Allows opened.start

variable {seen : List Word} {tokens : List Token} {literal : Option OpenLiteral} {word : Word}

namespace Accounted

variable (accounted : Accounted seen tokens literal) (follows : word.Follows seen)

include accounted follows

theorem stop_le_next (token : Token) (member : token ∈ tokens) :
    token.span.stop ≤ word.span.start := by
  obtain ⟨earlier, found, same⟩ := accounted.stops token member
  rw [same]
  exact follows.before earlier found

theorem start_lt_next (opened : OpenLiteral) (found : literal = some opened) :
    opened.start < word.span.start := by
  obtain ⟨earlier, member, same⟩ := accounted.starts opened found
  rw [same]
  exact lt_of_lt_of_le (accounted.wide earlier member) (follows.before earlier member)

theorem opening_le : (literal.getD word.opening).start ≤ word.span.start := by
  cases found : literal with
  | none => exact le_refl _
  | some opened => exact le_of_lt (accounted.start_lt_next follows opened found)

end Accounted

namespace Nested

variable (nested : Nested tokens literal) (accounted : Accounted seen tokens literal)
  (follows : word.Follows seen)

include nested accounted follows

theorem append (token : Token) (literal' : Option OpenLiteral)
    (wide : token.span.start < token.span.stop) (ends : token.span.stop = word.span.stop)
    (apart : ∀ earlier ∈ tokens, earlier.Precedes token)
    (around : ∀ opened ∈ literal', literal = some opened ∧ token.Allows opened.start) :
    Nested (tokens ++ [token]) literal' where
  wide other member := by
    rcases List.mem_append.mp member with earlier | last
    · exact nested.wide other earlier
    · rw [List.mem_singleton.mp last]
      exact wide
  ends := by
    apply List.pairwise_append.mpr
    refine ⟨nested.ends, List.pairwise_singleton _ _, ?_⟩
    intro earlier member other last
    rw [List.mem_singleton.mp last, ends]
    exact accounted.stop_lt follows earlier member
  apart := by
    apply List.pairwise_append.mpr
    refine ⟨nested.apart, List.pairwise_singleton _ _, ?_⟩
    intro earlier member other last
    rw [List.mem_singleton.mp last]
    exact apart earlier member
  around opened found other member := by
    obtain ⟨before, allowed⟩ := around opened found
    rcases List.mem_append.mp member with earlier | last
    · exact nested.around opened before other earlier
    · rw [List.mem_singleton.mp last]
      exact allowed

theorem allows_opening (token : Token) (member : token ∈ tokens) :
    token.Allows (literal.getD word.opening).start := by
  cases found : literal with
  | none => exact .inl (accounted.stop_le_next follows token member)
  | some opened => exact nested.around opened found token member

theorem step (token? : Option Token) (literal' : Option OpenLiteral)
    (placed : Placed word literal token? literal') :
    Nested (tokens ++ token?.toList) literal' := by
  have before := accounted.stop_le_next follows
  cases placed with
  | directive literal =>
    apply nested.append accounted follows _ _ follows.wide rfl
    · intro earlier member
      exact .inl (before earlier member)
    · intro opened found
      exact ⟨found, .inr ⟨rfl, accounted.start_lt_next follows opened found⟩⟩
  | own kind notDirective notString =>
    apply nested.append accounted follows _ _ follows.wide rfl
    · intro earlier member
      exact .inl (before earlier member)
    · simp
  | added literal =>
    constructor
    · simpa using nested.wide
    · simpa using nested.ends
    · simpa using nested.apart
    · rintro opened ⟨⟩ token member
      have earlier : token ∈ tokens := by simpa using member
      exact nested.allows_opening accounted follows token earlier
  | closed literal =>
    have opening := accounted.opening_le follows
    apply nested.append accounted follows
    · exact lt_of_le_of_lt opening follows.wide
    · rfl
    · intro earlier member
      rcases nested.allows_opening accounted follows earlier member with left | ⟨directive, inside⟩
      · exact .inl left
      · exact .inr ⟨rfl, directive, inside, accounted.stop_lt follows earlier member⟩
    · simp

end Nested

theorem Scanner.scan_tokens_apart_or_nested (source file : Text) (sink : Option Sink)
    (nonempty : source ≠ []) (nulFree : '\x00' ∉ source) :
    let scanned := (fresh source file sink).scan
    (∀ error, scanned.2 ≠ some (.rejected error)) ∧
      scanned.1.tokens.Pairwise (fun earlier later => earlier.span.stop < later.span.stop) ∧
      (∀ token ∈ scanned.1.tokens, token.span.start < token.span.stop) ∧
      scanned.1.tokens.Pairwise fun earlier later =>
        earlier.span.stop ≤ later.span.start ∨
          later.kind = .string ∧ earlier.kind = .directive ∧
            later.span.start < earlier.span.start ∧ earlier.span.stop < later.span.stop := by
  have start : Nested [] none := by constructor <;> simp
  obtain ⟨-, -, -, nested⟩ := scan_accounted (fun _ => Nested) source file sink nonempty nulFree
    start fun _ _ _ _ token? literal' accounted nested follows placed =>
      nested.step accounted follows token? literal' placed
  exact ⟨scan_fresh_not_rejected source file sink nonempty nulFree, nested.ends, nested.wide,
    nested.apart⟩

theorem Scanner.scan_directives_in_string_nested :
    let source : Text := "int \"a #b c\nd\" x".toList
    let scanned := (fresh source defaultFile none).scan
    scanned.1.tokens.map Token.kind = [.reserved, .directive, .directive, .string, .error] ∧
      scanned.1.tokens.Pairwise fun earlier later =>
        earlier.span.stop ≤ later.span.start ∨
          later.kind = .string ∧ earlier.kind = .directive ∧
            later.span.start < earlier.span.start ∧ earlier.span.stop < later.span.stop := by
  constructor
  · decide +kernel
  · exact (scan_tokens_apart_or_nested _ _ none (by decide) (by decide)).2.2.2

end LineLexer
