import LineLexer.Listing
import LineLexer.Proofs.JsonReader
import LineLexer.Proofs.WordTexts

set_option autoImplicit false

namespace LineLexer

theorem Numeral.chars_int (i : Int) : ∀ c ∈ int i, c ∈ '-' :: decimalDigits := by
  intro c inside
  rcases mem_int i c inside with digit | rfl
  · exact List.mem_cons_of_mem '-' (List.contains_iff_mem.mp (isDigit_eq c ▸ digit))
  · exact List.mem_cons_self

namespace Json

def units (c : Char) : List Nat :=
  if c.toNat < 0x10000 then [c.toNat]
  else [0xD800 + (c.toNat - 0x10000) / 0x400, 0xDC00 + (c.toNat - 0x10000) % 0x400]

theorem isValidChar_toNat (c : Char) : c.toNat.isValidChar :=
  c.valid

theorem ofUnits?_cons (c : Char) (more : List Nat) :
    ofUnits? (c.toNat :: more) = (ofUnits? more).map (c :: ·) := by
  have valid := isValidChar_toNat c
  cases more with
  | nil => simp [ofUnits?, valid]
  | cons next more =>
    have apart : ¬ (0xD800 ≤ c.toNat ∧ c.toNat < 0xDC00 ∧ 0xDC00 ≤ next ∧ next < 0xE000) := by
      rintro ⟨low, high, -⟩
      rcases valid with below | ⟨above, -⟩ <;> omega
    rw [ofUnits?, if_neg apart, if_pos valid, Char.ofNat_toNat]

theorem ofUnits?_units (c : Char) (more : List Nat) :
    ofUnits? (units c ++ more) = (ofUnits? more).map (c :: ·) := by
  unfold units
  split
  next => exact ofUnits?_cons c more
  next large =>
    have bound : c.toNat < 0x110000 := by
      rcases isValidChar_toNat c with below | ⟨-, above⟩ <;> omega
    have pair : 0xD800 ≤ 0xD800 + (c.toNat - 0x10000) / 0x400 ∧
        0xD800 + (c.toNat - 0x10000) / 0x400 < 0xDC00 ∧
        0xDC00 ≤ 0xDC00 + (c.toNat - 0x10000) % 0x400 ∧
        0xDC00 + (c.toNat - 0x10000) % 0x400 < 0xE000 := by
      omega
    have joined : 0x10000 + (0xD800 + (c.toNat - 0x10000) / 0x400 - 0xD800) * 0x400 +
        (0xDC00 + (c.toNat - 0x10000) % 0x400 - 0xDC00) = c.toNat := by
      omega
    simp only [List.cons_append, List.nil_append]
    rw [ofUnits?, if_pos pair, joined, Char.ofNat_toNat]

theorem ofUnits?_flatMap (text : Text) : ofUnits? (text.flatMap units) = some text := by
  induction text with
  | nil => rfl
  | cons c rest ih => rw [List.flatMap_cons, ofUnits?_units, ih, Option.map_some]

def isVisible (c : Char) : Bool :=
  decide (0x20 ≤ c.toNat ∧ c.toNat ≤ 0x7E)

theorem written_jsonUnit (n : Nat) (small : n < 0x10000) :
    escapes.Written '"' isVisible (Listing.jsonUnit n) [n] :=
  .long 'u' 4 n rfl (by decide) small (by decide)

theorem written_jsonUnits (c : Char) :
    escapes.Written '"' isVisible (Listing.jsonUnits c.toNat) (units c) := by
  unfold Listing.jsonUnits units
  split
  next small => exact written_jsonUnit c.toNat small
  next large =>
    have bound : c.toNat < 0x110000 := by
      rcases isValidChar_toNat c with below | ⟨-, above⟩ <;> omega
    exact .append _ _ _ _ (written_jsonUnit _ (by omega)) (written_jsonUnit _ (by omega))

theorem written_jsonChar (c : Char) :
    escapes.Written '"' isVisible (Listing.jsonChar c) (units c) := by
  have short (letter meant : Char) (single : meant.toNat < 0x10000)
      (lettered : escapes.width? letter = none) (known : escapes.meant? letter = some meant)
      (visible : isVisible letter = true) :
      escapes.Written '"' isVisible ['\\', letter] (units meant) := by
    rw [units, if_pos single]
    exact .short letter meant lettered known visible
  unfold Listing.jsonChar
  split
  next same => exact eq_of_beq same ▸ short '"' '"' (by decide) rfl rfl (by decide)
  next notQuote =>
  split
  next same => exact eq_of_beq same ▸ short '\\' '\\' (by decide) rfl rfl (by decide)
  next notBackslash =>
  split
  next same => exact eq_of_beq same ▸ short 'n' '\n' (by decide) rfl rfl (by decide)
  next =>
  split
  next same => exact eq_of_beq same ▸ short 'r' '\r' (by decide) rfl rfl (by decide)
  next =>
  split
  next same => exact eq_of_beq same ▸ short 't' '\t' (by decide) rfl rfl (by decide)
  next =>
  split
  next same => exact eq_of_beq same ▸ short 'f' '\x0c' (by decide) rfl rfl (by decide)
  next =>
  split
  next same => exact eq_of_beq same ▸ short 'b' '\x08' (by decide) rfl rfl (by decide)
  next =>
  split
  next ascii =>
    rw [units, if_pos (by omega)]
    exact .plain c (by simpa using notQuote) (by simpa using notBackslash)
      (by simpa [escapes] using ascii.1) (decide_eq_true ascii)
  next => exact written_jsonUnits c

theorem written_jsonString (text : Text) :
    escapes.Written '"' isVisible (text.flatMap Listing.jsonChar) (text.flatMap units) :=
  .flatMap Listing.jsonChar units written_jsonChar text

theorem string?_jsonString (text rest : Text) :
    string? (text.flatMap Listing.jsonChar ++ '"' :: rest) = some (text, rest) := by
  have read := ((written_jsonString text).spells (by decide)).read_closed rest
  simp [string?, read, ofUnits?_flatMap]

def Ends (rest : Text) : Prop :=
  ∀ c ∈ rest.head?, c = ',' ∨ c = '\n'

theorem Ends.not_isDigit {rest : Text} (ends : Ends rest) :
    ∀ c ∈ rest.head?, c.isDigit = false := by
  intro c head
  rcases ends c head with rfl | rfl <;> decide

theorem whole?_nat (n : Nat) (rest : Text) (ends : Ends rest) :
    whole? (Numeral.nat n ++ rest) = some (Numeral.nat n, rest) := by
  obtain ⟨taken, dropped⟩ :=
    Text.takeWhile_run Char.isDigit (Numeral.nat n) rest (Numeral.mem_nat n) ends.not_isDigit
  rcases Nat.eq_zero_or_pos n with rfl | positive
  · rfl
  · have head := Numeral.nat_head n positive
    cases digits : Numeral.nat n with
    | nil => exact absurd digits (Numeral.nat_ne_nil n)
    | cons c more =>
      have nonzero : c ≠ '0' := head c (by simp [digits])
      rw [digits] at taken dropped
      unfold whole?
      split
      next same => exact absurd (List.cons.inj same).1 nonzero
      next => simp only [digits?, taken, dropped, List.isEmpty_cons, Bool.false_eq_true, if_false]

theorem unsigned?_nat (negative : Bool) (n : Nat) (rest : Text) (ends : Ends rest) :
    unsigned? negative (Numeral.nat n ++ rest) = some (.integer (withSign negative n), rest) := by
  have whole : fraction? rest = some (none, rest) ∧ exponent? rest = some (none, rest) := by
    cases rest with
    | nil => exact ⟨rfl, rfl⟩
    | cons c rest => rcases ends c rfl with rfl | rfl <;> exact ⟨rfl, rfl⟩
  simp [unsigned?, whole?_nat n rest ends, whole, numeral, Numeral.ofDigits_nat]

theorem number?_int (i : Int) (rest : Text) (ends : Ends rest) :
    number? (Numeral.int i ++ rest) = some (.integer i, rest) := by
  cases i with
  | negSucc n => exact unsigned?_nat true (n + 1) rest ends
  | ofNat n =>
    have unsigned := unsigned?_nat false n rest ends
    rw [Numeral.int]
    unfold number?
    split
    next digits same =>
      cases written : Numeral.nat n with
      | nil => exact absurd written (Numeral.nat_ne_nil n)
      | cons c more =>
        have digit := Numeral.mem_nat n c (written ▸ List.mem_cons_self)
        rw [written] at same
        exact absurd ((List.cons.inj same).1 ▸ digit) (by decide)
    next => exact unsigned

theorem skipSpaces_cons (c : Char) (rest : Text) (solid : isSpace c = false) :
    skipSpaces (c :: rest) = c :: rest :=
  List.dropWhile_cons_of_neg (by simp [solid])

def Reads (written : Text) (value : Value) : Prop :=
  ∀ fuel rest, Ends rest → value? (fuel + 1) (' ' :: written ++ rest) = some (value, rest)

theorem reads_jsonString (text : Text) : Reads (Listing.jsonString text) (.string text) := by
  intro fuel rest _
  have body := string?_jsonString text rest
  simp [value?, Listing.jsonString, skipSpaces, isSpace, body]

theorem int_head (i : Int) :
    ∃ c ∈ '-' :: decimalDigits, ∃ rest, Numeral.int i = c :: rest := by
  cases written : Numeral.int i with
  | nil => exact absurd written (Numeral.int_ne_nil i)
  | cons c rest => exact ⟨c, Numeral.chars_int i c (written ▸ List.mem_cons_self), rest, rfl⟩

theorem scalar?_eq_number? (c : Char) (rest : Text) (other : c ∉ ['n', 't', 'f']) :
    scalar? (c :: rest) = number? (c :: rest) := by
  simp only [List.mem_cons, List.not_mem_nil, or_false, not_or] at other
  obtain ⟨notNull, notTrue, notFalse⟩ := other
  simp [scalar?, Text.after?, Ne.symm notNull, Ne.symm notTrue, Ne.symm notFalse]

theorem reads_int (i : Int) : Reads (Numeral.int i) (.integer i) := by
  intro fuel rest ends
  obtain ⟨c, begins, digits, written⟩ := int_head i
  have apart : ∀ c ∈ '-' :: decimalDigits,
      isSpace c = false ∧ c ∉ ['"', '[', '\x7b'] ∧ c ∉ ['n', 't', 'f'] :=
    forall_mem_of_all _ (by decide)
  obtain ⟨solid, other, other'⟩ := apart c begins
  have number := number?_int i rest ends
  have spaced : skipSpaces (' ' :: Numeral.int i ++ rest) = Numeral.int i ++ rest := by
    rw [written]
    exact skipSpaces_cons c (digits ++ rest) solid
  simp only [value?, spaced]
  rw [written] at number ⊢
  simp only [List.cons_append] at number ⊢
  rw [← scalar?_eq_number? c _ other'] at number
  simp only [List.mem_cons, List.not_mem_nil, or_false, not_or] at other
  split
  next same => exact absurd (List.cons.inj same).1 other.1
  next same => exact absurd (List.cons.inj same).1 other.2.1
  next same => exact absurd (List.cons.inj same).1 other.2.2
  next => exact number

section

variable {α β : Type} (close : Char) (item : β) (more : Text → Option (List β × Text))

theorem separated_close (margin : Nat) (rest : Text) (bracket : isSpace close = false) :
    separated close item more ('\n' :: Text.spaces margin ++ close :: rest) =
      some ([item], rest) := by
  have blank : ∀ c ∈ '\n' :: Text.spaces margin, isSpace c = true := by
    simp [Text.spaces, isSpace]
  have skipped : skipSpaces ('\n' :: Text.spaces margin ++ close :: rest) = close :: rest :=
    (Text.takeWhile_run isSpace _ (close :: rest) blank (by simpa using bracket)).2
  rw [separated, skipped]
  exact if_pos rfl

theorem separated_comma (rest : Text) (apart : ',' ≠ close) :
    separated close item more (',' :: rest) =
      (more rest).map fun (items, rest) => (item :: items, rest) := by
  rw [separated, skipSpaces_cons ',' rest rfl]
  exact if_neg apart

end

-- An array or an object of several lines, each item on its own.
theorem read_lines {α β : Type} (read : Nat → Text → Option (List β × Text)) (close : Char)
    (bracket : close ∈ [']', '\x7d']) (line : α → Text) (value : α → β) (owed : Nat)
    (newline : ∀ fuel text, read fuel ('\n' :: text) = read fuel text)
    (items : List α) (filled : items ≠ [])
    (step : ∀ item ∈ items, ∀ fuel rest, owed ≤ fuel → Ends rest →
      read (fuel + 1) (line item ++ rest) = separated close (value item) (read fuel) rest)
    (margin fuel : Nat) (enough : items.length + owed ≤ fuel) (rest : Text) :
    read fuel (",\n".toList.intercalate (items.map line) ++
      ('\n' :: Text.spaces margin ++ close :: rest)) = some (items.map value, rest) := by
  have marks : ∀ close ∈ [']', '\x7d'], isSpace close = false ∧ ',' ≠ close :=
    forall_mem_of_all _ (by decide)
  obtain ⟨solid, apart⟩ := marks close bracket
  induction items generalizing fuel with
  | nil => exact absurd rfl filled
  | cons item items ih =>
    obtain ⟨here, later⟩ := List.forall_mem_cons.mp step
    simp only [List.length_cons] at enough
    obtain ⟨fuel, rfl⟩ : ∃ before, fuel = before + 1 := ⟨fuel - 1, by omega⟩
    cases items with
    | nil =>
      rw [List.map_singleton, List.intercalate_singleton, here fuel _ (by omega) (by simp [Ends])]
      exact separated_close close (value item) (read fuel) margin rest solid
    | cons next items =>
      have others := ih (by simp) later fuel (by simp only [List.length_cons] at enough ⊢; omega)
      have between (rest : Text) : ",\n".toList ++ rest = ',' :: '\n' :: rest := rfl
      rw [List.map_cons, List.map_cons, List.intercalate_cons_cons, ← List.map_cons,
        List.append_assoc, List.append_assoc, here fuel _ (by omega) (by simp [Ends]), between,
        separated_comma _ _ _ _ apart, newline, others]
      rfl

structure Member where
  key : Text
  written : Text
  value : Value
  reads : Reads written value

namespace Member

def string (key text : Text) : Member :=
  { key, written := _, value := _, reads := reads_jsonString text }

def integer (key : Text) (i : Int) : Member :=
  { key, written := _, value := _, reads := reads_int i }

def line (member : Member) : Text :=
  Listing.jsonField member.key member.written

def read (member : Member) : Text × Value :=
  (member.key, member.value)

end Member

theorem skipSpaces_field (key written rest : Text) :
    skipSpaces (Listing.jsonField key written ++ rest) =
      '"' :: key.flatMap Listing.jsonChar ++ '"' :: ':' :: ' ' :: written ++ rest := by
  simp [Listing.jsonField, Listing.jsonString, Text.spaces, skipSpaces, isSpace]

theorem value?_newline (fuel : Nat) (text : Text) :
    value? fuel ('\n' :: text) = value? fuel text := by
  cases fuel <;> simp [value?, skipSpaces, isSpace]

theorem items?_newline (fuel : Nat) (text : Text) :
    items? fuel ('\n' :: text) = items? fuel text := by
  cases fuel <;> simp [items?, value?_newline]

theorem members?_newline (fuel : Nat) (text : Text) :
    members? fuel ('\n' :: text) = members? fuel text := by
  cases fuel <;> simp [members?, skipSpaces, isSpace]

theorem members?_line (member : Member) (fuel : Nat) (rest : Text) (enough : 1 ≤ fuel)
    (ends : Ends rest) :
    members? (fuel + 1) (member.line ++ rest) =
      separated '\x7d' member.read (members? fuel) rest := by
  obtain ⟨fuel, rfl⟩ : ∃ before, fuel = before + 1 := ⟨fuel - 1, by omega⟩
  have key := string?_jsonString member.key (':' :: ' ' :: member.written ++ rest)
  have value := member.reads fuel rest ends
  simp only [List.cons_append] at key value
  rw [members?, Member.line, skipSpaces_field]
  simp [Text.after?, key, value, skipSpaces_cons ':' _ rfl, Member.read]

end Json

def Token.fields (token : Token) : Text × Text × Int × Int :=
  (token.value, token.kind.label, token.span.start.line, token.span.start.column)

theorem Token.map_eq_of_map_eq {α β : Type} (first : Token → α) (second : Token → β)
    (determines : ∀ left right, first left = first right → second left = second right)
    (tokens others : List Token) (same : tokens.map first = others.map first) :
    tokens.map second = others.map second := by
  induction tokens generalizing others with
  | nil => rw [List.map_eq_nil_iff.mp same.symm]
  | cons token tokens ih =>
    cases others with
    | nil => contradiction
    | cons other others =>
      obtain ⟨here, later⟩ := List.cons.inj same
      rw [List.map_cons, List.map_cons, determines token other here, ih others later]

namespace Listing

open Json (Member Value)

def members (token : Token) : List Member :=
  [.string "value".toList token.value, .string "kind".toList token.kind.label,
    .integer "line".toList token.span.start.line, .integer "column".toList token.span.start.column]

def object : Text × Text × Int × Int → Value
  | (value, label, line, column) =>
    .object
      [("value".toList, .string value), ("kind".toList, .string label),
        ("line".toList, .integer line), ("column".toList, .integer column)]

theorem jsonObject_eq (token : Token) :
    jsonObject token =
      "  \x7b\n".toList ++ (",\n".toList.intercalate ((members token).map Member.line) ++
        ('\n' :: Text.spaces 2 ++ ['\x7d'])) :=
  List.append_assoc _ _ _

theorem exists_first_line (token : Token) (rest : Text) :
    ∃ tail, Json.skipSpaces ('\n' :: (",\n".toList.intercalate ((members token).map Member.line) ++
      rest)) = '"' :: tail := by
  have first := Json.skipSpaces_field "value".toList (jsonString token.value)
  rw [members, List.map_cons, List.map_cons, List.intercalate_cons_cons, List.append_assoc,
    List.append_assoc]
  exact ⟨_, first _⟩

theorem value?_jsonObject (token : Token) (fuel : Nat) (rest : Text) (enough : 6 ≤ fuel) :
    Json.value? fuel (jsonObject token ++ rest) = some (object token.fields, rest) := by
  obtain ⟨fuel, rfl⟩ : ∃ before, fuel = before + 1 := ⟨fuel - 1, by omega⟩
  have lines := Json.read_lines Json.members? '\x7d' (by decide) Member.line Member.read 1
    Json.members?_newline (members token) (by simp [members])
    (fun member _ fuel rest => Json.members?_line member fuel rest) 2 fuel
    (by simp [members]; omega) rest
  obtain ⟨tail, first⟩ := exists_first_line token ('\n' :: Text.spaces 2 ++ '\x7d' :: rest)
  have opened (text : Text) :
      Json.skipSpaces ("  \x7b\n".toList ++ text) = '\x7b' :: '\n' :: text := rfl
  rw [jsonObject_eq, List.append_assoc, List.append_assoc, List.append_assoc]
  simp only [Json.value?, opened, List.cons_append, List.nil_append] at first lines ⊢
  simp only [first, Json.members?_newline, lines, Option.map_some]
  rfl

theorem items?_jsonObject (token : Token) (fuel : Nat) (rest : Text) (enough : 6 ≤ fuel) :
    Json.items? (fuel + 1) (jsonObject token ++ rest) =
      Json.separated ']' (object token.fields) (Json.items? fuel) rest := by
  simp [Json.items?, value?_jsonObject token fuel rest enough]

theorem length_le_intercalate (tokens : List Token) :
    tokens.length ≤ (",\n".toList.intercalate (tokens.map jsonObject)).length := by
  induction tokens with
  | nil => exact Nat.zero_le _
  | cons token rest ih =>
    cases rest with
    | nil => simp [jsonObject]
    | cons next rest =>
      rw [List.map_cons, List.map_cons, List.intercalate_cons_cons, ← List.map_cons]
      simp at ih ⊢
      omega

theorem exists_first_object (token : Token) (rest : List Token) (text : Text) :
    ∃ tail, Json.skipSpaces ('\n' ::
      (",\n".toList.intercalate ((token :: rest).map jsonObject) ++ text)) = '\x7b' :: tail := by
  have opened (tail : Text) :
      ∃ tail', Json.skipSpaces ('\n' :: (jsonObject token ++ tail)) = '\x7b' :: tail' := by
    rw [jsonObject_eq, List.append_assoc]
    exact ⟨_, rfl⟩
  cases rest with
  | nil =>
    rw [List.map_singleton, List.intercalate_singleton]
    exact opened text
  | cons next rest =>
    rw [List.map_cons, List.map_cons, List.intercalate_cons_cons, List.append_assoc,
      List.append_assoc]
    exact opened _

theorem value?_json (tokens : List Token) (fuel : Nat) (enough : tokens.length + 7 ≤ fuel) :
    Json.value? fuel (json tokens) =
      some (.array (tokens.map fun token => object token.fields), ['\n']) := by
  obtain ⟨fuel, rfl⟩ : ∃ before, fuel = before + 1 := ⟨fuel - 1, by omega⟩
  cases tokens with
  | nil => rfl
  | cons token rest =>
    have lines := Json.read_lines Json.items? ']' (by decide) jsonObject
      (fun token => object token.fields) 6 Json.items?_newline (token :: rest) (by simp)
      (fun token _ fuel rest enough _ => items?_jsonObject token fuel rest enough) 0 fuel
      (by omega) ['\n']
    obtain ⟨tail, first⟩ := exists_first_object token rest "\n]\n".toList
    have whole : json (token :: rest) = '[' :: '\n' ::
        (",\n".toList.intercalate ((token :: rest).map jsonObject) ++ "\n]\n".toList) :=
      List.append_assoc _ _ _
    have opened (text : Text) : Json.skipSpaces ('[' :: text) = '[' :: text := rfl
    rw [whole, Json.value?, opened]
    simp only [first, Json.items?_newline]
    exact congrArg (Option.map fun read => (Json.Value.array read.1, read.2)) lines

theorem length_le_json (tokens : List Token) : tokens.length + 3 ≤ (json tokens).length := by
  have rows := length_le_intercalate tokens
  cases tokens with
  | nil => decide
  | cons token rest =>
    rw [json]
    · simp only [List.length_append] at rows ⊢
      have brackets : "[\n".toList.length = 2 ∧ "\n]\n".toList.length = 3 := ⟨rfl, rfl⟩
      omega
    · simp

theorem decode_json (tokens : List Token) :
    Json.decode (json tokens) = some (.array (tokens.map fun token => object token.fields)) := by
  have long := length_le_json tokens
  rw [Json.decode, value?_json tokens _ (by omega)]
  rfl

open Json (isVisible)

def IsAscii (text : Text) : Prop :=
  ∀ c ∈ text, c = '\n' ∨ isVisible c = true

instance (text : Text) : Decidable (IsAscii text) :=
  decidable_of_iff ((text.all fun c => c == '\n' || isVisible c) = true) (by simp [IsAscii])

namespace IsAscii

theorem append {front back : Text} (ascii : IsAscii front) (ascii' : IsAscii back) :
    IsAscii (front ++ back) :=
  List.forall_mem_append.mpr ⟨ascii, ascii'⟩

theorem cons {c : Char} {text : Text} (visible : isVisible c = true) (ascii : IsAscii text) :
    IsAscii (c :: text) :=
  List.forall_mem_cons.mpr ⟨.inr visible, ascii⟩

theorem intercalate {separator : Text} {parts : List Text} (ascii : IsAscii separator)
    (ascii' : ∀ part ∈ parts, IsAscii part) : IsAscii (separator.intercalate parts) := by
  intro c member
  rcases Text.mem_intercalate separator parts c member with between | ⟨part, found, inside⟩
  · exact ascii c between
  · exact ascii' part found c inside

theorem int (i : Int) : IsAscii (Numeral.int i) := by
  have ascii : IsAscii ('-' :: decimalDigits) := by decide
  exact fun c inside => ascii c (Numeral.chars_int i c inside)

theorem jsonString (text : Text) : IsAscii (jsonString text) := by
  have digits : ∀ c ∈ hexDigits, isVisible c = true := forall_mem_of_all _ (by decide)
  have body := (Json.written_jsonString text).visible (by decide) digits
  exact cons (by decide) (.append (fun c inside => .inr (body c inside)) (by decide))

theorem jsonField (key value : Text) (ascii : IsAscii value) : IsAscii (jsonField key value) :=
  .append (.append (.append (by decide) (jsonString key)) (by decide)) ascii

theorem jsonObject (token : Token) : IsAscii (jsonObject token) := by
  have fields : ∀ part ∈ (members token).map Member.line, IsAscii part := by
    simp only [members, List.map_cons, List.map_nil, List.forall_mem_cons]
    exact ⟨jsonField _ _ (jsonString _), jsonField _ _ (jsonString _), jsonField _ _ (int _),
      jsonField _ _ (int _), by simp⟩
  exact .append (.append (by decide) (intercalate (by decide) fields)) (by decide)

theorem json (tokens : List Token) : IsAscii (json tokens) := by
  have objects : ∀ part ∈ tokens.map Listing.jsonObject, IsAscii part := by
    simpa using fun token _ => jsonObject token
  cases tokens with
  | nil => decide
  | cons token rest =>
    exact .append (.append (by decide) (intercalate (by decide) objects)) (by decide)

end IsAscii

theorem jsonObject_congr (left right : Token) (same : left.fields = right.fields) :
    jsonObject left = jsonObject right := by
  simp only [Token.fields, Prod.mk.injEq] at same
  obtain ⟨value, label, line, column⟩ := same
  rw [jsonObject, jsonObject, value, label, line, column]

theorem object_injective : Function.Injective object := by
  intro left right same
  simpa [object, Prod.ext_iff] using same

theorem json_unambiguous (tokens : List Token) :
    (∀ c ∈ json tokens, c = '\n' ∨ 0x20 ≤ c.toNat ∧ c.toNat ≤ 0x7E) ∧
      Json.decode (json tokens) =
        some (.array ((tokens.map Token.fields).map object)) ∧
      ∀ others, json tokens = json others ↔ tokens.map Token.fields = others.map Token.fields := by
  have decoded (tokens : List Token) : Json.decode (json tokens) =
      some (.array ((tokens.map Token.fields).map object)) := by
    rw [decode_json, List.map_map]
    rfl
  refine ⟨?_, decoded tokens, fun others => ⟨?_, ?_⟩⟩
  · simpa [IsAscii, Json.isVisible] using IsAscii.json tokens
  · intro same
    have values := (decoded tokens).symm.trans ((congrArg Json.decode same).trans (decoded others))
    simp only [Option.some.injEq, Value.array.injEq] at values
    exact List.map_injective_iff.mpr object_injective values
  · intro same
    have objects :=
      Token.map_eq_of_map_eq Token.fields jsonObject jsonObject_congr tokens others same
    cases tokens with
    | nil =>
      rw [List.map_eq_nil_iff.mp same.symm]
    | cons token rest =>
      cases others with
      | nil => contradiction
      | cons other others => rw [json, json, objects] <;> simp

end Listing

end LineLexer
