import LineLexer.Proofs.Underlines
import LineLexer.Toml.Lexeme

set_option autoImplicit false

namespace LineLexer.Numeral

open Toml (hexValue ofDigits)

theorem toDigits_induction (base : Nat) (several : 1 < base) {motive : Nat → Text → Prop}
    (single : ∀ d < base, motive d [d.digitChar])
    (more : ∀ n d digits, 0 < n → d < base → motive n digits →
      motive (n * base + d) (digits ++ [d.digitChar]))
    (n : Nat) : motive n (Nat.toDigits base n) := by
  induction n using Nat.strongRecOn with
  | ind n ih =>
    by_cases last : n < base
    next =>
      rw [Nat.toDigits_of_lt_base last]
      exact single n last
    next =>
      have whole : n / base * base + n % base = n := Nat.div_add_mod' n base
      have smaller : n / base < n := Nat.div_lt_self (by omega) several
      have positive : 0 < n / base := Nat.div_pos (by omega) (by omega)
      have digit : n % base < base := Nat.mod_lt n (by omega)
      rw [Nat.toDigits_of_base_le several (by omega)]
      have longer := more (n / base) (n % base) _ positive digit (ih (n / base) smaller)
      rwa [whole] at longer

theorem hexValue_digitChar (d : Nat) (small : d < 16) : hexValue d.digitChar = d := by
  have all : ∀ d < 16, hexValue d.digitChar = d := by decide
  exact all d small

theorem isHexDigit_digitChar (d : Nat) (small : d < 16) : Text.isHexDigit d.digitChar = true := by
  have all : ∀ d < 16, Text.isHexDigit d.digitChar = true := by decide
  exact all d small

theorem ofDigits_toDigits (base n : Nat) (several : 1 < base) (small : base ≤ 16) :
    ofDigits base (Nat.toDigits base n) = n := by
  induction n using toDigits_induction base several with
  | single d last => simp [ofDigits, hexValue_digitChar d (by omega)]
  | more n d digits positive last ih =>
    simp only [ofDigits, List.foldl_append, List.foldl_cons, List.foldl_nil] at ih ⊢
    rw [ih, hexValue_digitChar d (by omega)]

theorem isHexDigit_of_mem_toDigits (base n : Nat) (several : 1 < base) (small : base ≤ 16) :
    ∀ c ∈ Nat.toDigits base n, Text.isHexDigit c = true := by
  induction n using toDigits_induction base several with
  | single d last => simpa using isHexDigit_digitChar d (by omega)
  | more n d digits positive last ih =>
    simpa [or_imp, forall_and] using ⟨ih, isHexDigit_digitChar d (by omega)⟩

theorem ofDigits_nat (n : Nat) : ofDigits 10 (nat n) = n :=
  ofDigits_toDigits 10 n (by decide) (by decide)

theorem nat_head (n : Nat) (positive : 0 < n) : ∀ c ∈ (nat n).head?, c ≠ '0' := by
  have head (n : Nat) : Nat.toDigits 10 n ≠ [] ∧
      (0 < n → ∀ c ∈ (Nat.toDigits 10 n).head?, c ≠ '0') := by
    induction n using toDigits_induction 10 (by decide) with
    | single d last => simp [Nat.pos_iff_ne_zero]
    | more n d digits earlier last ih =>
      refine ⟨by simp, fun _ => ?_⟩
      rw [List.head?_append_of_ne_nil _ ih.1]
      exact ih.2 earlier
  exact (head n).2 positive

theorem nat_injective : Function.Injective nat := by
  intro left right same
  rw [← ofDigits_nat left, same, ofDigits_nat right]

theorem int_injective : Function.Injective int := by
  have unsigned (n : Nat) (digits : Text) (same : nat n = '-' :: digits) : False := by
    have digit := mem_nat n '-' (same ▸ List.mem_cons_self)
    exact absurd digit (by decide)
  intro left right same
  cases left with
  | ofNat n =>
    cases right with
    | ofNat m => rw [nat_injective same]
    | negSucc m => exact (unsigned n _ same).elim
  | negSucc n =>
    cases right with
    | ofNat m => exact (unsigned m _ same.symm).elim
    | negSucc m => rw [Nat.succ.inj (nat_injective (List.cons.inj same).2)]

section

variable (width n : Nat)

theorem isHexDigit_of_mem_hex : ∀ c ∈ hex width n, Text.isHexDigit c = true := by
  intro c member
  rcases List.mem_append.mp member with zero | digit
  · rw [List.eq_of_mem_replicate zero]
    decide
  · exact isHexDigit_of_mem_toDigits 16 n (by decide) (by decide) c digit

theorem length_hex (positive : 0 < width) (fits : n < Nat.pow 16 width) :
    (hex width n).length = width := by
  have short := (Nat.length_toDigits_le_iff (by decide) positive).mpr fits
  simp only [hex, List.length_append, List.length_replicate]
  omega

theorem ofDigits_hex : ofDigits 16 (hex width n) = n := by
  have zeros (count : Nat) (digits : Text) :
      ofDigits 16 (List.replicate count '0' ++ digits) = ofDigits 16 digits := by
    induction count with
    | zero => rfl
    | succ count ih => exact ih
  rw [hex, zeros, ofDigits_toDigits 16 n (by decide) (by decide)]

end

end LineLexer.Numeral
