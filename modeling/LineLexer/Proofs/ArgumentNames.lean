import LineLexer.CommandLine.Options

set_option autoImplicit false

namespace LineLexer

namespace CommandLine

def Piece.text? : Piece → Option Text
  | .separator => none
  | .value text => some text
  | .setting _ _ given => given
  | .unknown text => some text

def EndsArgument (argv : List Text) (text : Text) : Prop :=
  text ≠ [] → ∃ argument ∈ argv, text <:+ argument

theorem EndsArgument.suffix {argv : List Text} {text ending : Text}
    (ends : EndsArgument argv text) (shorter : ending <:+ text) : EndsArgument argv ending := by
  intro nonempty
  obtain ⟨argument, member, whole⟩ := ends fun none => nonempty (by simpa [none] using shorter)
  exact ⟨argument, member, shorter.trans whole⟩

def Packed.Ends (argv : List Text) (packed : Packed) : Prop :=
  ∀ entry ∈ packed.given, ∀ text ∈ entry.2, EndsArgument argv text

variable {argv : List Text}

theorem Packed.Ends.single (setting : Setting) (value : Option Text)
    (ends : ∀ text ∈ value, EndsArgument argv text) :
    (Packed.single setting value).Ends argv := by
  unfold Packed.single
  split
  next => simp [Packed.Ends]
  next => simpa [Packed.Ends] using ends

namespace Draft

-- Every name taken so far is the end of an argument, and a format is one that can be rendered.
structure Ends (release : Release) (argv : List Text) (draft : Draft) : Prop where
  input : ∀ text ∈ draft.input, EndsArgument argv text
  output : ∀ text ∈ draft.output, EndsArgument argv text
  formatted : release = .later → draft.format ≠ some .nothing

variable {release : Release}

theorem Ends.named {draft : Draft} (taken : draft.Ends release argv) (text : Text)
    (ends : EndsArgument argv text) : Ends release argv { draft with input := some text } :=
  { taken with input := by simpa using ends }

theorem Ends.extra {draft : Draft} (taken : draft.Ends release argv) (texts : List Text) :
    (draft.extra texts).Ends release argv :=
  { taken with }

end Draft

end CommandLine
end LineLexer
