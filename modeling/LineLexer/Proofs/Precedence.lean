import LineLexer.Proofs.ExitCodes

set_option autoImplicit false

namespace LineLexer

namespace Toml.Value

inductive Holds (i : Int) : Value → Prop
  | itself : Holds i (.integer i)
  | item (items : List Value) (value : Value) (member : value ∈ items) (holds : Holds i value) :
    Holds i (.array items)
  | entry (entries : Entries) (key : Text) (value : Value) (member : (key, value) ∈ entries)
      (holds : Holds i value) :
    Holds i (.table entries)

def Unshowable (value : Value) : Prop :=
  ∃ i, value.Holds i ∧ digitLimit < (Numeral.nat i.natAbs).length

theorem digitLimit_lt_iff (n : Nat) :
    digitLimit < (Numeral.nat n).length ↔ Nat.pow 10 digitLimit ≤ n := by
  have short : (Numeral.nat n).length ≤ digitLimit ↔ n < 10 ^ digitLimit :=
    Nat.length_toDigits_le_iff (by decide) (by decide)
  rw [← Nat.not_le, short, Nat.not_lt, Nat.pow_eq]

theorem exceedsDigits_integer (i : Int) :
    (integer i).exceedsDigits = true ↔ digitLimit < (Numeral.nat i.natAbs).length := by
  unfold exceedsDigits
  rw [digitLimit_lt_iff]
  exact decide_eq_true_iff

mutual

theorem unshowable_of_exceedsDigits :
    (value : Value) → value.exceedsDigits = true → value.Unshowable
  | .integer i => fun exceeds => ⟨i, .itself, (exceedsDigits_integer i).mp exceeds⟩
  | .array items => by
    intro exceeds
    obtain ⟨value, member, i, holds, long⟩ := unshowable_item items exceeds
    exact ⟨i, .item items value member holds, long⟩
  | .table entries => by
    intro exceeds
    obtain ⟨key, value, member, i, holds, long⟩ := unshowable_entry entries exceeds
    exact ⟨i, .entry entries key value member holds, long⟩
  | .string _ | .number _ | .boolean _ | .moment _ => by
    intro exceeds
    contradiction

theorem unshowable_item :
    (items : List Value) → anyExceedsDigits items = true → ∃ value ∈ items, value.Unshowable
  | [] => by
    intro exceeds
    contradiction
  | value :: rest => by
    intro exceeds
    rcases (Bool.or_eq_true _ _).mp exceeds with here | later
    · exact ⟨value, List.mem_cons_self, unshowable_of_exceedsDigits value here⟩
    · obtain ⟨other, member, unshowable⟩ := unshowable_item rest later
      exact ⟨other, List.mem_cons_of_mem value member, unshowable⟩

theorem unshowable_entry :
    (entries : List (Text × Value)) → anyEntryExceedsDigits entries = true →
      ∃ key value, (key, value) ∈ entries ∧ value.Unshowable
  | [] => by
    intro exceeds
    contradiction
  | (key, value) :: rest => by
    intro exceeds
    rcases (Bool.or_eq_true _ _).mp exceeds with here | later
    · exact ⟨key, value, List.mem_cons_self, unshowable_of_exceedsDigits value here⟩
    · obtain ⟨key', other, member, unshowable⟩ := unshowable_entry rest later
      exact ⟨key', other, List.mem_cons_of_mem _ member, unshowable⟩

end

end Toml.Value

namespace CommandLine

open Toml (Value)

namespace Config

variable (document : Toml.Entries)

end Config

namespace Arguments

variable (arguments : Arguments)

end Arguments
end CommandLine
end LineLexer
