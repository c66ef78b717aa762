import LineLexer.Word.Shape
import Mathlib.Data.List.Induction

set_option autoImplicit false

namespace LineLexer

structure MaximalRun (inRun : Char → Bool) (before run after : Text) : Prop where
  nonempty : run ≠ []
  within : ∀ c ∈ run, inRun c = true
  opens : ∀ c ∈ before.getLast?, inRun c = false
  ends : ∀ c ∈ after.head?, inRun c = false

variable (inRun : Char → Bool)

theorem Text.isNonemptyRun_iff (text : Text) :
    text.isNonemptyRun inRun = true ↔ text ≠ [] ∧ ∀ c ∈ text, inRun c = true := by
  simp [Text.isNonemptyRun]

theorem exists_run_before (front : Text) :
    ∃ before run, front = before ++ run ∧ (∀ c ∈ run, inRun c = true) ∧
      ∀ c ∈ before.getLast?, inRun c = false := by
  induction front using List.reverseRecOn with
  | nil => exact ⟨[], [], rfl, by simp, by simp⟩
  | append_singleton front c ih =>
    by_cases goesOn : inRun c = true
    · obtain ⟨before, run, rfl, within, opens⟩ := ih
      refine ⟨before, run ++ [c], by simp, ?_, opens⟩
      intro other member
      rcases List.mem_append.mp member with earlier | last
      · exact within other earlier
      · exact List.mem_singleton.mp last ▸ goesOn
    · exact ⟨front ++ [c], [], by simp, by simp, by simpa using goesOn⟩

theorem exists_run_after (back : Text) :
    ∃ run after, back = run ++ after ∧ (∀ c ∈ run, inRun c = true) ∧
      ∀ c ∈ after.head?, inRun c = false := by
  induction back with
  | nil => exact ⟨[], [], rfl, by simp, by simp⟩
  | cons c back ih =>
    by_cases goesOn : inRun c = true
    · obtain ⟨run, after, rfl, within, ends⟩ := ih
      exact ⟨c :: run, after, rfl, List.forall_mem_cons.mpr ⟨goesOn, within⟩, ends⟩
    · exact ⟨[], c :: back, rfl, by simp, by simpa using goesOn⟩

theorem exists_maximalRun (front back : Text) (c : Char) (here : inRun c = true) :
    ∃ before left right after, front = before ++ left ∧ back = right ++ after ∧
      MaximalRun inRun before (left ++ c :: right) after := by
  obtain ⟨before, left, split, withinLeft, opens⟩ := exists_run_before inRun front
  obtain ⟨right, after, split', withinRight, ends⟩ := exists_run_after inRun back
  refine ⟨before, left, right, after, split, split', by simp, ?_, opens, ends⟩
  intro other member
  rcases List.mem_append.mp member with inLeft | rest
  · exact withinLeft other inLeft
  · rcases List.mem_cons.mp rest with rfl | inRight
    · exact here
    · exact withinRight other inRight

variable {inRun} {before run after : Text}

theorem MaximalRun.whole (maximal : MaximalRun inRun before run after)
    (all : ∀ c ∈ before ++ run ++ after, inRun c = true) : before ++ run ++ after = run := by
  have opensAt : before = [] := by
    cases last : before.getLast? with
    | none => exact List.getLast?_eq_none_iff.mp last
    | some c =>
      have inside := all c (by simp [List.mem_of_getLast? last])
      have outside := maximal.opens c last
      simp [inside] at outside
  have endsAt : after = [] := by
    cases after with
    | nil => rfl
    | cons c rest =>
      have inside := all c (by simp)
      have outside := maximal.ends c rfl
      simp [inside] at outside
  simp [opensAt, endsAt]

end LineLexer
