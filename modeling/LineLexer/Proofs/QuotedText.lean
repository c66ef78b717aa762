import LineLexer.Proofs.EscapedText
import LineLexer.Text.Quoted

set_option autoImplicit false

namespace LineLexer.Text

def literalMeant? : Char → Option Char
  | '\\' => some '\\'
  | '\'' => some '\''
  | '"' => some '"'
  | 't' => some '\t'
  | 'n' => some '\n'
  | 'r' => some '\r'
  | _ => none

def literalWidth? : Char → Option Nat
  | 'x' => some 2
  | 'u' => some 4
  | 'U' => some 8
  | _ => none

def literalEscapes : Escapes where
  meant? := literalMeant?
  width? := literalWidth?
  legal c := c != '\n' && c != '\r'

def ofPoints? (points : List Nat) : Option Text :=
  points.mapM fun point => if point.isValidChar then some (Char.ofNat point) else none

def unquoted? : Text → Option Text
  | [] => none
  | mark :: text =>
    if mark = '\'' ∨ mark = '"' then do
      let (points, rest) ← literalEscapes.read mark .plain text
      if rest.isEmpty then ofPoints? points else none
    else none

example : unquoted? "'\\x7f\\u00e9\"\\''".toList = some "\x7fé\"'".toList := by
  decide

theorem quoteMark_mem (text : Text) : text.quoteMark ∈ ['\'', '"'] := by
  unfold quoteMark
  split <;> simp

theorem written_quotedChar (mark c : Char) (quotation : mark ∈ ['\'', '"']) :
    literalEscapes.Written mark isPrintable (quotedChar mark c) [c.toNat] := by
  have short (letter : Char) (known : literalMeant? letter = some c)
      (lettered : literalWidth? letter = none) (visible : isPrintable letter = true) :
      literalEscapes.Written mark isPrintable ['\\', letter] [c.toNat] :=
    .short letter c lettered known visible
  have below : c.toNat < 0x110000 := by
    rcases c.valid with small | ⟨-, large⟩
    · exact Nat.lt_trans small (by decide)
    · exact large
  unfold quotedChar
  split
  next same =>
    have listed : ∀ c ∈ ['\'', '"', '\\'], literalMeant? c = some c ∧ literalWidth? c = none ∧
        isPrintable c = true :=
      forall_mem_of_all _ (by decide)
    have known : c ∈ ['\'', '"', '\\'] := by
      simp only [Bool.or_eq_true, beq_iff_eq] at same
      rcases same with rfl | rfl
      · exact List.mem_append_left ['\\'] quotation
      · decide
    obtain ⟨meant, lettered, visible⟩ := listed c known
    exact short c meant lettered visible
  next other =>
  split
  next same => exact short 't' (eq_of_beq same ▸ rfl) rfl (by decide)
  next =>
  split
  next same => exact short 'n' (eq_of_beq same ▸ rfl) rfl (by decide)
  next unfed =>
  split
  next same => exact short 'r' (eq_of_beq same ▸ rfl) rfl (by decide)
  next unreturned =>
  split
  next visible =>
    simp only [Bool.or_eq_true, beq_iff_eq, not_or] at other unfed unreturned
    exact .plain c other.1 other.2 (by simp [literalEscapes, unfed, unreturned]) visible
  next =>
  split
  next small => exact .long 'x' 2 c.toNat rfl (by decide) small (by decide)
  next =>
  split
  next small => exact .long 'u' 4 c.toNat rfl (by decide) small (by decide)
  next =>
    have fits : c.toNat < Nat.pow 16 8 := Nat.lt_trans below (by decide)
    exact .long 'U' 8 c.toNat rfl (by decide) fits (by decide)

theorem written_quoted (text : Text) :
    literalEscapes.Written text.quoteMark isPrintable (text.flatMap (quotedChar text.quoteMark))
      (text.map Char.toNat) := by
  rw [List.map_eq_flatMap]
  exact .flatMap _ _ (fun c => written_quotedChar text.quoteMark c text.quoteMark_mem) text

theorem ofPoints?_toNat (text : Text) : ofPoints? (text.map Char.toNat) = some text := by
  induction text with
  | nil => rfl
  | cons c rest ih =>
    have valid : c.toNat.isValidChar := c.valid
    rw [ofPoints?] at ih ⊢
    rw [List.map_cons, List.mapM_cons, ih, if_pos valid, Char.ofNat_toNat]
    rfl

theorem unquoted?_quoted (text : Text) : unquoted? text.quoted = some text := by
  have quotation := text.quoteMark_mem
  have apart : ∀ mark ∈ ['\'', '"'], mark ≠ '\\' := forall_mem_of_all _ (by decide)
  have read := (text.written_quoted.spells (apart _ quotation)).read_closed []
  simp only [quoted, unquoted?, List.cons_append]
  rw [if_pos (List.mem_pair.mp quotation), read]
  exact ofPoints?_toNat text

theorem isPrintable_of_mem_quoted (text : Text) : ∀ c ∈ text.quoted, isPrintable c = true := by
  have marks : ∀ mark ∈ ['\'', '"'], isPrintable mark = true := forall_mem_of_all _ (by decide)
  have digits : ∀ d ∈ hexDigits, isPrintable d = true := forall_mem_of_all _ (by decide)
  have body := text.written_quoted.visible (by decide) digits
  have mark := marks _ text.quoteMark_mem
  simp only [quoted, List.cons_append, List.forall_mem_cons, List.forall_mem_append]
  exact ⟨mark, body, mark, by simp⟩

-- The characters at which some reader of lines would break one.
def lineBreaks : List Char :=
  ['\n', '\x0b', '\x0c', '\r', '\x1c', '\x1d', '\x1e', '\u0085', '\u2028', '\u2029']

theorem quoted_unbroken (text : Text) : ∀ c ∈ text.quoted, c ∉ lineBreaks := by
  have unprintable : ∀ c ∈ lineBreaks, isPrintable c = false :=
    forall_mem_of_all _ (by decide +kernel)
  intro c inside breaks
  have visible := text.isPrintable_of_mem_quoted c inside
  simp [unprintable c breaks] at visible

end LineLexer.Text
