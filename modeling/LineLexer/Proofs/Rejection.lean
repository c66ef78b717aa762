import LineLexer.Proofs.FreshScan
import LineLexer.Proofs.WordTexts

set_option autoImplicit false

namespace LineLexer

-- The first entry of its kind stands at one place only.
theorem eq_of_first_split {A : Type} (hit : A → Bool) (front front' back back' : List A)
    (entry entry' : A) (clear : ∀ earlier ∈ front, hit earlier = false)
    (clear' : ∀ earlier ∈ front', hit earlier = false) (here : hit entry = true)
    (here' : hit entry' = true) (same : front ++ entry :: back = front' ++ entry' :: back') :
    front = front' ∧ entry = entry' := by
  have cut (front back : List A) (entry : A) (clear : ∀ earlier ∈ front, hit earlier = false)
      (here : hit entry = true) : (front ++ entry :: back).takeWhile (!hit ·) = front := by
    rw [List.takeWhile_append_of_pos (by simpa using clear)]
    simp [here]
  have fronts : front = front' := by
    rw [← cut front back entry clear here, same, cut front' back' entry' clear' here']
  subst fronts
  exact ⟨rfl, (List.cons.inj (List.append_cancel_left same)).1⟩

namespace Text

theorem eq_of_first_mark (mark : Char) (front front' back back' : Text) (new : mark ∉ front)
    (new' : mark ∉ front') (same : front ++ mark :: back = front' ++ mark :: back') :
    front = front' ∧ back = back' := by
  have apart (text : Text) (new : mark ∉ text) : ∀ c ∈ text, (c == mark) = false := by
    intro c inside
    have different : c ≠ mark := fun same => new (same ▸ inside)
    simpa using different
  obtain ⟨rfl, -⟩ := eq_of_first_split (· == mark) front front' back back' mark mark
    (apart front new) (apart front' new') (by simp) (by simp) same
  exact ⟨rfl, (List.cons.inj (List.append_cancel_left same)).2⟩

theorem FirstNul.mem {source : Text} {position : Position} (first : source.FirstNul position) :
    '\x00' ∈ source := by
  obtain ⟨above, front, back, below, lines, -, -, -⟩ := first
  have standing : front ++ '\x00' :: back ∈ source.lines := by simp [lines]
  exact source.mem_of_mem_lines _ standing _ (by simp)

theorem FirstNul.eq {source : Text} {position other : Position} (first : source.FirstNul position)
    (first' : source.FirstNul other) : position = other := by
  obtain ⟨above, front, back, below, lines, clear, new, rfl⟩ := first
  obtain ⟨above', front', back', below', lines', clear', new', rfl⟩ := first'
  obtain ⟨sameAbove, sameLine⟩ := eq_of_first_split (·.contains '\x00') above above' below below'
    (front ++ '\x00' :: back) (front' ++ '\x00' :: back') (by simpa using clear)
    (by simpa using clear') (by simp) (by simp) (lines.symm.trans lines')
  obtain ⟨sameFront, -⟩ := eq_of_first_mark '\x00' front front' back back' new new' sameLine
  rw [sameAbove, sameFront]

def lastOffset (mark : Char) (text : Text) : Int :=
  match text.reverse.idxOf? mark with
  | some behind => text.length - 1 - behind
  | none => -1

theorem lastOffset_of_not_mem (mark : Char) (text : Text) (new : mark ∉ text) :
    text.lastOffset mark = -1 := by
  have absent : text.reverse.idxOf? mark = none := by simpa using new
  simp [lastOffset, absent]

theorem lastOffset_append (mark : Char) (before after : Text) :
    (before ++ mark :: after).lastOffset mark = before.length + 1 + after.lastOffset mark := by
  have found : (before ++ mark :: after).reverse.idxOf? mark =
      (after.reverse.idxOf? mark).or (some after.length) := by
    simp [List.idxOf?, List.findIdx?_append, List.findIdx?_cons]
  simp only [lastOffset, found]
  cases after.reverse.idxOf? mark with
  | some behind =>
    simp
    omega
  | none =>
    simp
    omega

theorem idxOf?_of_first (mark : Char) (front back : Text) (new : mark ∉ front) :
    (front ++ mark :: back).idxOf? mark = some front.length := by
  have absent : front.idxOf? mark = none := by simpa using new
  simp only [List.idxOf?] at absent ⊢
  simp [List.findIdx?_append, List.findIdx?_cons, absent]

end Text

theorem Position.after_eq_offsets (before : Text) :
    after before =
      { line := before.count '\n' + 1, column := before.length - before.lastOffset '\n' } := by
  induction before using Text.lines_induction with
  | last line flat =>
    rw [after_of_flat line flat, line.lastOffset_of_not_mem '\n' flat,
      List.count_eq_zero_of_not_mem flat]
    simp
  | above line rest flat ih =>
    rw [after_append_newline line rest flat, ih, Text.lastOffset_append]
    simp [List.count_eq_zero_of_not_mem flat]
    omega

namespace Scanner

theorem scan_rejected_iff_inputError (scanner : Scanner) (error : InputError) :
    scanner.scan.2 = some (.rejected error) ↔ scanner.source.inputError? = some error := by
  unfold scan
  cases scanner.source.inputError? with
  | some found => simp
  | none => simp [feed]

theorem scan_of_rejected (scanner : Scanner) (error : InputError)
    (rejected : scanner.source.inputError? = some error) :
    scanner.scan.1 = scanner := by
  simp [scan, rejected]

end Scanner

structure InputError.LocatesNul (error : InputError) (source : Text) (position : Position) :
    Prop where
  named : error.position = some position
  first : source.FirstNul position
  only : ∀ other, source.FirstNul other → other = position
  offsets : ∃ offset, source.idxOf? '\x00' = some offset ∧
    position =
      { line := (source.take offset).count '\n' + 1
        column := offset - Text.lastOffset '\n' (source.take offset) }

theorem InputError.locatesNul (source : Text) (nul : '\x00' ∈ source) (error : InputError)
    (rejected : source.inputError? = some error) :
    ∃ position, error.LocatesNul source position := by
  obtain ⟨position, first, refused⟩ := source.inputError?_of_nul nul
  obtain rfl : error = .nul position := Option.some.inj (rejected.symm.trans refused)
  refine ⟨position, rfl, first, fun other first' => first'.eq first, ?_⟩
  have place : position = .after (source.takeWhile (· != '\x00')) :=
    first.eq (source.firstNul_after nul)
  obtain ⟨front, back, rfl, new⟩ := List.eq_append_cons_of_mem nul
  refine ⟨front.length, Text.idxOf?_of_first '\x00' front back new, ?_⟩
  rw [place, Text.takeWhile_bne_append '\x00' front _ new, Position.after_eq_offsets]
  simp

namespace Scanner

theorem scan_rejected_iff (scanner : Scanner) :
    ((∃ error, scanner.scan.2 = some (.rejected error)) ↔
      scanner.source = [] ∨ '\x00' ∈ scanner.source) ∧
    ∀ error, scanner.scan.2 = some (.rejected error) →
      scanner.scan.1 = scanner ∧
        (scanner.source = [] → error.position = none) ∧
        ('\x00' ∈ scanner.source → ∃ position, error.LocatesNul scanner.source position) := by
  simp only [scan_rejected_iff_inputError]
  constructor
  · rw [← Option.isSome_iff_exists, ← not_iff_not, Option.not_isSome_iff_eq_none]
    rw [Text.inputError?_eq_none_iff]
    simp
  · intro error rejected
    refine ⟨scanner.scan_of_rejected error rejected, ?_, ?_⟩
    · intro blank
      rw [blank] at rejected
      obtain rfl := Option.some.inj rejected
      rfl
    · intro nul
      exact InputError.locatesNul scanner.source nul error rejected

theorem scan_rejected_at_third_line :
    let word := Word.startingAt { line := 7, column := 1 } "\"a".toList
    let source : Text := "int x\n\n\ty\x00 \x00\n\x00".toList
    let scanner := ((fresh source defaultFile (some {})).classify word).1
    let error : InputError := .nul { line := 3, column := 3 }
    scanner.context.state.literal ≠ none ∧ '\x00' ∈ scanner.source ∧
      scanner.scan = (scanner, some (.rejected error)) ∧
      error.LocatesNul scanner.source { line := 3, column := 3 } := by
  intro word source scanner error
  obtain ⟨-, refused⟩ := scan_rejected_iff scanner
  have halted : scanner.scan.2 = some (.rejected error) := by decide +kernel
  have nul : '\x00' ∈ scanner.source := by decide +kernel
  obtain ⟨unchanged, -, located⟩ := refused error halted
  obtain ⟨position, locates⟩ := located nul
  obtain rfl : { line := 3, column := 3 } = position := Option.some.inj locates.named
  exact ⟨by decide +kernel, nul, Prod.ext unchanged halted, locates⟩

end Scanner

end LineLexer
