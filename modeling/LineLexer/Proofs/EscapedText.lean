import LineLexer.Proofs.Numerals
import LineLexer.Proofs.WordShapes

set_option autoImplicit false

namespace LineLexer

structure Escapes where
  meant? : Char → Option Char
  width? : Char → Option Nat
  legal : Char → Bool

namespace Escapes

inductive Mode where
  | plain
  | escape
  -- So many digits are still to come; the value is that of the digits before them.
  | digits (owed value : Nat)

def prepend (numbers : List Nat) (result : List Nat × Text) : List Nat × Text :=
  (numbers ++ result.1, result.2)

def read (escapes : Escapes) (mark : Char) : Mode → Text → Option (List Nat × Text)
  | _, [] => none
  | .plain, c :: rest =>
    if c = mark then some ([], rest)
    else if c = '\\' then escapes.read mark .escape rest
    else if escapes.legal c then (escapes.read mark .plain rest).map (prepend [c.toNat])
    else none
  | .escape, c :: rest =>
    match escapes.width? c, escapes.meant? c with
    | some width, _ => escapes.read mark (.digits width 0) rest
    | none, some meant => (escapes.read mark .plain rest).map (prepend [meant.toNat])
    | none, none => none
  | .digits owed value, c :: rest =>
    if Text.isHexDigit c then
      let value := value * 16 + Toml.hexValue c
      if owed = 1 then (escapes.read mark .plain rest).map (prepend [value])
      else escapes.read mark (.digits (owed - 1) value) rest
    else none

variable (escapes : Escapes) (mark : Char)

def Spells (text : Text) (numbers : List Nat) : Prop :=
  ∀ rest, escapes.read mark .plain (text ++ rest) =
    (escapes.read mark .plain rest).map (prepend numbers)

variable {escapes mark}

theorem Spells.nil : escapes.Spells mark [] [] := by
  intro rest
  cases read : escapes.read mark .plain rest <;> simp [read, prepend]

theorem Spells.append {front back : Text} {numbers more : List Nat}
    (spells : escapes.Spells mark front numbers) (spells' : escapes.Spells mark back more) :
    escapes.Spells mark (front ++ back) (numbers ++ more) := by
  intro rest
  rw [List.append_assoc, spells, spells', Option.map_map]
  congr
  funext result
  simp [prepend]

theorem Spells.read_closed {text : Text} {numbers : List Nat}
    (spells : escapes.Spells mark text numbers) (rest : Text) :
    escapes.read mark .plain (text ++ mark :: rest) = some (numbers, rest) := by
  rw [spells]
  simp [read, prepend]

theorem spells_plain (c : Char) (other : c ≠ mark) (unescaped : c ≠ '\\')
    (legal : escapes.legal c = true) : escapes.Spells mark [c] [c.toNat] := by
  intro rest
  simp [read, other, unescaped, legal]

theorem spells_short (c meant : Char) (quote : mark ≠ '\\') (short : escapes.width? c = none)
    (known : escapes.meant? c = some meant) : escapes.Spells mark ['\\', c] [meant.toNat] := by
  intro rest
  simp [read, quote.symm, short, known]

theorem read_digits (digits rest : Text) (value : Nat) (filled : digits ≠ [])
    (hex : ∀ c ∈ digits, Text.isHexDigit c = true) :
    escapes.read mark (.digits digits.length value) (digits ++ rest) =
      (escapes.read mark .plain rest).map
        (prepend [digits.foldl (fun value c => value * 16 + Toml.hexValue c) value]) := by
  induction digits generalizing value with
  | nil => contradiction
  | cons c digits ih =>
    obtain ⟨here, later⟩ := List.forall_mem_cons.mp hex
    cases digits with
    | nil => simp [read, here]
    | cons d digits => simpa [read, here] using ih (value * 16 + Toml.hexValue c) (by simp) later

theorem spells_long (c : Char) (width n : Nat) (quote : mark ≠ '\\')
    (long : escapes.width? c = some width) (positive : 0 < width) (fits : n < Nat.pow 16 width) :
    escapes.Spells mark ('\\' :: c :: Numeral.hex width n) [n] := by
  intro rest
  have length := Numeral.length_hex width n positive fits
  have filled : Numeral.hex width n ≠ [] := by
    intro empty
    simp [empty] at length
    omega
  have digits : escapes.read mark (.digits _ 0) (Numeral.hex width n ++ rest) = _ :=
    read_digits _ rest 0 filled (Numeral.isHexDigit_of_mem_hex width n)
  rw [length] at digits
  simp only [List.cons_append, read, quote.symm, if_false, if_true, long, digits]
  exact congrArg (fun value => (escapes.read mark .plain rest).map (prepend [value]))
    (Numeral.ofDigits_hex width n)

variable (escapes mark)

inductive Written (shown : Char → Bool) : Text → List Nat → Prop
  | nil : Written shown [] []
  | plain (c : Char) (other : c ≠ mark) (unescaped : c ≠ '\\') (legal : escapes.legal c = true)
      (visible : shown c = true) : Written shown [c] [c.toNat]
  | short (letter meant : Char) (lettered : escapes.width? letter = none)
      (known : escapes.meant? letter = some meant) (visible : shown letter = true) :
    Written shown ['\\', letter] [meant.toNat]
  | long (letter : Char) (width n : Nat) (lettered : escapes.width? letter = some width)
      (positive : 0 < width) (fits : n < Nat.pow 16 width) (visible : shown letter = true) :
    Written shown ('\\' :: letter :: Numeral.hex width n) [n]
  | append (front back : Text) (numbers more : List Nat) (written : Written shown front numbers)
      (written' : Written shown back more) : Written shown (front ++ back) (numbers ++ more)

namespace Written

variable {escapes mark} {shown : Char → Bool}

theorem flatMap (piece : Char → Text) (numbers : Char → List Nat)
    (written : ∀ c, escapes.Written mark shown (piece c) (numbers c)) (text : Text) :
    escapes.Written mark shown (text.flatMap piece) (text.flatMap numbers) := by
  induction text with
  | nil => exact .nil
  | cons c rest ih => exact .append _ _ _ _ (written c) ih

variable {text : Text} {numbers : List Nat} (written : escapes.Written mark shown text numbers)

include written

theorem spells (quote : mark ≠ '\\') : escapes.Spells mark text numbers := by
  induction written with
  | nil => exact .nil
  | plain c other unescaped legal => exact spells_plain c other unescaped legal
  | short letter meant lettered known => exact spells_short letter meant quote lettered known
  | long letter width n lettered positive fits =>
    exact spells_long letter width n quote lettered positive fits
  | append _ _ _ _ _ _ ih ih' => exact ih.append ih'

theorem visible (backslash : shown '\\' = true) (digits : ∀ c ∈ hexDigits, shown c = true) :
    ∀ c ∈ text, shown c = true := by
  induction written with
  | nil => simp
  | plain c _ _ _ visible => simpa using visible
  | short letter _ _ _ visible => simpa using ⟨backslash, visible⟩
  | long letter width n _ _ _ visible =>
    refine List.forall_mem_cons.mpr ⟨backslash, List.forall_mem_cons.mpr ⟨visible, ?_⟩⟩
    intro c inside
    have hex := Numeral.isHexDigit_of_mem_hex width n c inside
    rw [isHexDigit_eq] at hex
    exact digits c (List.contains_iff_mem.mp hex)
  | append _ _ _ _ _ _ ih ih' => exact List.forall_mem_append.mpr ⟨ih, ih'⟩

end Written

end Escapes

end LineLexer
