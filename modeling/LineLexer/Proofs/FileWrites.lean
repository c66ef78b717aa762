import LineLexer.FileTree

set_option autoImplicit false

namespace LineLexer

theorem Location.up_cases (location : Location) :
    location.up.parts = [] ∨ location.up = { location with parts := location.parts.dropLast } := by
  unfold Location.up
  split
  next => exact .inl rfl
  next root none => exact .inl none
  next => exact .inr rfl

namespace FileTree

def Grounded (tree : FileTree) (location : Location) : Prop :=
  ∀ parts, parts <+: location.parts → parts ≠ location.parts →
    tree.node? { location with parts } = some .directory

variable {tree before after : FileTree} {here location place : Location}

theorem Grounded.up (grounded : tree.Grounded here) : tree.Grounded here.up := by
  intro parts leads apart
  rcases here.up_cases with none | up
  · rw [none] at leads apart
    exact absurd (List.prefix_nil.mp leads) apart
  · rw [up] at leads apart ⊢
    refine grounded parts (leads.trans (List.dropLast_prefix _)) ?_
    rintro rfl
    exact apart (leads.eq_of_length_le (by simp))

theorem Grounded.enter (grounded : tree.Grounded here)
    (directory : tree.node? here = some .directory) (part : Text) :
    tree.Grounded (here.enter part) := by
  unfold Location.enter
  split
  next => exact grounded.up
  next =>
    intro parts leads apart
    rcases List.prefix_concat_iff.mp leads with rfl | inside
    · exact absurd rfl apart
    · by_cases whole : parts = here.parts
      next =>
        subst whole
        exact directory
      next => exact grounded parts inside whole

theorem walk_grounded (parts : List Text) (grounded : tree.Grounded here)
    (found : tree.walk here parts = .ok location) : tree.Grounded location := by
  induction parts generalizing here with
  | nil =>
    cases found
    exact grounded
  | cons part rest ih =>
    simp only [walk] at found
    split at found
    next directory => exact ih (grounded.enter directory part) found
    next => contradiction
    next => contradiction

theorem locate_grounded (path : Path) (found : tree.locate path = .ok location) :
    tree.Grounded location := by
  have start (base : Base) : tree.Grounded { base } := by
    intro parts leads apart
    exact absurd (List.prefix_nil.mp leads) apart
  unfold locate at found
  split at found
  next => exact walk_grounded path.parts (start _) found
  next => exact walk_grounded path.parts (start _) found

theorem node?_of_parts (tree : FileTree) (inside : place.parts ≠ []) :
    tree.node? place =
      ((tree.files.get? place).map .file).or
        (if tree.isDirectory place then some .directory else none) := by
  simp only [node?, List.isEmpty_iff, inside, if_false]
  cases tree.files.get? place <;> rfl

theorem isDirectory_of_node? (inside : place.parts ≠ [])
    (directory : tree.node? place = some .directory) : tree.isDirectory place = true := by
  rw [node?_of_parts tree inside] at directory
  cases found : tree.files.get? place with
  | none => simpa [found] using directory
  | some content => simp [found] at directory

theorem Grounded.isDirectory (grounded : tree.Grounded location) (apart : place ≠ location)
    (inside : place.parts ≠ []) (below : location.isWithin place = true) :
    tree.isDirectory place = true := by
  obtain ⟨base, parts⟩ := place
  simp only [Location.isWithin, Bool.and_eq_true, beq_iff_eq, List.isPrefixOf_iff_prefix] at below
  obtain ⟨rfl, leads⟩ := below
  have proper : parts ≠ location.parts := fun whole => apart (by rw [whole])
  exact isDirectory_of_node? inside (grounded parts leads proper)

def putFile (tree : FileTree) (location : Location) (content : Bytes) : FileTree :=
  { tree with files := tree.files.put location content }

-- What the new file lies below was a directory before.
theorem isDirectory_putFile (content : Bytes) (grounded : tree.Grounded location)
    (apart : place ≠ location) (inside : place.parts ≠ []) :
    (tree.putFile location content).isDirectory place = tree.isDirectory place := by
  have later : (tree.putFile location content).isDirectory place =
      (tree.directories.any (·.isWithin place) || (location.isWithin place ||
        tree.files.any fun entry => entry.1 != location && entry.1.isWithin place)) := by
    simp [FileTree.isDirectory, putFile, Table.put, List.any_filter]
  by_cases below : location.isWithin place = true
  next => simp [later, below, grounded.isDirectory apart inside below]
  next =>
    have others (entry : Location × Bytes) :
        (entry.1 != location && entry.1.isWithin place) = entry.1.isWithin place := by
      by_cases same : entry.1 = location
      next => simp [same, below]
      next => simp [same]
    rw [later]
    simp [below, others, FileTree.isDirectory]

theorem node?_putFile (content : Bytes) (grounded : tree.Grounded location)
    (named : location.parts ≠ []) (place : Location) :
    (tree.putFile location content).node? place =
      if place = location then some (.file content) else tree.node? place := by
  by_cases same : place = location
  next =>
    subst same
    simp [node?_of_parts _ named, putFile, Table.get?_put_self]
  next =>
    by_cases inside : place.parts = []
    next => simp [node?, same, inside]
    next =>
      have kept : (tree.putFile location content).files.get? place = tree.files.get? place :=
        tree.files.get?_put_of_ne location place content same
      rw [node?_of_parts _ inside, node?_of_parts _ inside, kept,
        isDirectory_putFile content grounded same inside, if_neg same]

theorem walk_of_directories
    (kept : ∀ place, before.node? place = some .directory → after.node? place = some .directory)
    (parts : List Text) (found : before.walk here parts = .ok location) :
    after.walk here parts = .ok location := by
  induction parts generalizing here with
  | nil => exact found
  | cons part rest ih =>
    simp only [walk] at found ⊢
    split at found
    next directory =>
      rw [kept here directory]
      exact ih found
    next => contradiction
    next => contradiction

theorem locate_of_directories
    (kept : ∀ place, before.node? place = some .directory → after.node? place = some .directory)
    (path : Path) (found : before.locate path = .ok location) :
    after.locate path = .ok location := by
  unfold locate at found ⊢
  split at found
  next relative => exact walk_of_directories kept path.parts found
  next => exact walk_of_directories kept path.parts found

structure Replaced (before after : FileTree) (path : Path) (content : Bytes) : Prop where
  readBack : after.read path = .ok content
  directories : after.directories = before.directories
  place : ∃ location, before.locate path = .ok location ∧
    before.node? location ≠ some .directory ∧
    (∀ other, after.files.get? other =
      if other = location then some content else before.files.get? other) ∧
    ∀ other, after.node? other =
      if other = location then some (.file content) else before.node? other

theorem node?_of_no_parts (tree : FileTree) (none : place.parts = []) :
    tree.node? place = some .directory := by
  simp [node?, none]

theorem write_eq_ok_iff (path : Path) (content : Bytes) :
    before.write path content = .ok after ↔
      ∃ location, before.locate path = .ok location ∧
        before.node? location ≠ some .directory ∧ before.putFile location content = after := by
  unfold write
  cases found : before.locate path with
  | error problem => simp
  | ok location =>
    by_cases directory : before.node? location = some .directory
    next => simp [directory]
    next => simp [directory, putFile]

inductive Unwritable (tree : FileTree) (path : Path) : FileError → Prop
  | unreachable (problem : FileProblem) (lost : tree.locate path = .error problem) :
      Unwritable tree path { problem, path }
  | directory (location : Location) (found : tree.locate path = .ok location)
      (directory : tree.node? location = some .directory) :
      Unwritable tree path { problem := .isDirectory, path }

theorem write_eq_error_iff (path : Path) (content : Bytes) (error : FileError) :
    tree.write path content = .error error ↔ tree.Unwritable path error := by
  unfold write
  constructor
  · intro failed
    split at failed
    next problem lost =>
      obtain rfl := Except.error.inj failed
      exact .unreachable problem lost
    next location found =>
      split at failed
      next directory =>
        obtain rfl := Except.error.inj failed
        exact .directory location found directory
      next => contradiction
  · intro unwritable
    cases unwritable with
    | unreachable problem lost => simp [lost]
    | directory location found directory => simp [found, directory]

theorem replaced_of_write (path : Path) (content : Bytes)
    (written : before.write path content = .ok after) : before.Replaced after path content := by
  obtain ⟨location, found, free, rfl⟩ := (write_eq_ok_iff path content).mp written
  have grounded := locate_grounded path found
  have named : location.parts ≠ [] := fun none => free (before.node?_of_no_parts none)
  have nodes := node?_putFile content grounded named
  refine ⟨?_, rfl, location, found, free, ?_, nodes⟩
  · have kept (place : Location) (directory : before.node? place = some .directory) :
        (before.putFile location content).node? place = some .directory := by
      rw [nodes place, if_neg ?_]
      · exact directory
      · rintro rfl
        exact free directory
    have again := locate_of_directories kept path found
    simp [read, again, contentAt, nodes location, bind, Except.bind]
  · intro other
    by_cases same : other = location
    next => simp [same, putFile, Table.get?_put_self]
    next =>
      rw [if_neg same]
      exact before.files.get?_put_of_ne location other content same

end FileTree
end LineLexer
