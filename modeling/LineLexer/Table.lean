set_option autoImplicit false

namespace LineLexer

variable {K A : Type} [BEq K] [LawfulBEq K]

abbrev Table (K A : Type) := List (K × A)

namespace Table

def get? (table : Table K A) (key : K) : Option A :=
  table.lookup key

def put (table : Table K A) (key : K) (value : A) : Table K A :=
  (key, value) :: table.filter fun entry => entry.1 != key

theorem get?_put_self (table : Table K A) (key : K) (value : A) :
    (table.put key value).get? key = some value := by
  simp [get?, put]

theorem get?_put_of_ne (table : Table K A) (key other : K) (value : A) (apart : other ≠ key) :
    (table.put key value).get? other = table.get? other := by
  simp only [get?, put, List.lookup_cons, beq_eq_false_iff_ne.mpr apart]
  induction table with
  | nil => rfl
  | cons entry rest ih =>
    obtain ⟨found, kept⟩ := entry
    by_cases same : found = key
    next => simpa [same, List.lookup_cons, beq_eq_false_iff_ne.mpr apart] using ih
    next => simp [same, List.lookup_cons, ih]

end Table
end LineLexer
