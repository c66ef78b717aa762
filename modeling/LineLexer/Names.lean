import LineLexer.Text.Basic

set_option autoImplicit false

namespace LineLexer

structure Names where
  toList : List Text
  increasing : toList.Pairwise (· < ·)
  deriving DecidableEq

namespace Names

def empty : Names where
  toList := []
  increasing := .nil

instance : EmptyCollection Names := ⟨empty⟩
instance : Inhabited Names := ⟨empty⟩

instance : Membership Text Names where
  mem names name := name ∈ names.toList

instance (name : Text) (names : Names) : Decidable (name ∈ names) :=
  inferInstanceAs (Decidable (name ∈ names.toList))

@[simp] theorem not_mem_empty (name : Text) : name ∉ ({} : Names) :=
  List.not_mem_nil

theorem ext (names others : Names) (same : ∀ name, name ∈ names ↔ name ∈ others) :
    names = others := by
  obtain ⟨left, increasing⟩ := names
  obtain ⟨right, increasing'⟩ := others
  have apart {list : List Text} (ordered : list.Pairwise (· < ·)) : list.Nodup := by
    apply ordered.imp
    rintro first second before rfl
    exact List.lt_irrefl first before
  have permuted : left.Perm right :=
    (List.perm_ext_iff_of_nodup (apart increasing) (apart increasing')).mpr same
  have equal : left = right := by
    apply permuted.eq_of_pairwise _ increasing increasing'
    intro first second _ _ before behind
    exact absurd (List.lt_trans before behind) (List.lt_irrefl first)
  simp [equal]

def insertInto (name : Text) : List Text → List Text
  | [] => [name]
  | head :: rest =>
    if name < head then name :: head :: rest
    else if name = head then head :: rest
    else head :: insertInto name rest

@[simp] theorem mem_insertInto (name other : Text) (names : List Text) :
    other ∈ insertInto name names ↔ other = name ∨ other ∈ names := by
  induction names with
  | nil => simp [insertInto]
  | cons head rest ih =>
    simp only [insertInto]
    split
    next => simp
    next =>
      split
      next same => simp [same]
      next => simp [ih, or_left_comm]

theorem increasing_insertInto (name : Text) (names : List Text)
    (increasing : names.Pairwise (· < ·)) : (insertInto name names).Pairwise (· < ·) := by
  induction names with
  | nil => simp [insertInto]
  | cons head rest ih =>
    obtain ⟨least, ordered⟩ := List.pairwise_cons.mp increasing
    simp only [insertInto]
    split
    next before =>
      refine List.pairwise_cons.mpr ⟨?_, increasing⟩
      intro other member
      rcases List.mem_cons.mp member with rfl | member
      · exact before
      · exact List.lt_trans before (least other member)
    next notBefore =>
      split
      next => exact increasing
      next different =>
        refine List.pairwise_cons.mpr ⟨?_, ih ordered⟩
        intro other member
        rcases (mem_insertInto name other rest).mp member with rfl | member
        · exact Decidable.byContradiction fun notAfter =>
            different (List.le_antisymm notAfter notBefore)
        · exact least other member

def insert (names : Names) (name : Text) : Names where
  toList := insertInto name names.toList
  increasing := increasing_insertInto name names.toList names.increasing

@[simp] theorem mem_insert (names : Names) (name other : Text) :
    other ∈ names.insert name ↔ other = name ∨ other ∈ names :=
  mem_insertInto name other names.toList

def size (names : Names) : Nat :=
  names.toList.length

end Names
end LineLexer
