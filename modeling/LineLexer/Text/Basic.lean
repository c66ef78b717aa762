set_option autoImplicit false

namespace LineLexer

-- Lengths and columns count code points. Lone surrogates are left out: no decoded text has them.
abbrev Text := List Char

namespace Text

def lines (text : Text) : List Text :=
  text.splitOn '\n'

@[simp] theorem lines_nil : lines [] = [[]] := rfl

theorem lines_append_newline (first second : Text) :
    lines (first ++ '\n' :: second) = lines first ++ lines second :=
  List.splitOn_append_cons_self first second

theorem lines_ne_nil (text : Text) : lines text ≠ [] :=
  List.splitOn_ne_nil '\n' text

def spaces (width : Nat) : Text :=
  List.replicate width ' '

@[simp] theorem length_spaces (width : Nat) : (spaces width).length = width := by
  simp [spaces]

def commaSeparated (parts : List Text) : Text :=
  ", ".toList.intercalate parts

def afterLast (mark : Char) (text : Text) : Text :=
  (text.reverse.takeWhile (· != mark)).reverse

theorem afterLast_append (mark : Char) (before after : Text) :
    afterLast mark (before ++ mark :: after) = afterLast mark after := by
  simp only [afterLast, List.reverse_append, List.reverse_cons, List.append_assoc,
    List.takeWhile_append]
  split
  next all => simp [(List.takeWhile_prefix _).eq_of_length all]
  next => rfl

def after? : (head text : Text) → Option Text
  | [], text => some text
  | h :: head, c :: text => if h = c then after? head text else none
  | _ :: _, [] => none

@[simp] theorem after?_eq_some (head text rest : Text) :
    after? head text = some rest ↔ text = head ++ rest := by
  fun_induction after? head text with
  | case1 text => simp
  | case2 head c text ih => simpa using ih
  | case3 h head c text different =>
    simp only [reduceCtorEq, List.cons_append, List.cons.injEq, false_iff, not_and]
    exact fun same => absurd same.symm different
  | case4 h head => simp

def withoutReturns : Text → Text
  | [] => []
  | '\r' :: '\n' :: rest => '\n' :: withoutReturns rest
  | c :: rest => c :: withoutReturns rest

def universalNewlines : Text → Text
  | [] => []
  | '\r' :: '\n' :: rest => '\n' :: universalNewlines rest
  | '\r' :: rest => '\n' :: universalNewlines rest
  | c :: rest => c :: universalNewlines rest

end Text

namespace Numeral

def nat (n : Nat) : Text :=
  Nat.toDigits 10 n

-- Positions are written with all their digits: the limit on the digits of an integer is left out,
-- since no source is long enough to reach it.
def int : Int → Text
  | .ofNat n => nat n
  | .negSucc n => '-' :: nat (n + 1)

theorem nat_ne_nil (n : Nat) : nat n ≠ [] :=
  Nat.toDigits_ne_nil

theorem int_ne_nil (i : Int) : int i ≠ [] := by
  cases i with
  | ofNat n => exact nat_ne_nil n
  | negSucc n => simp [int]

def hex (width n : Nat) : Text :=
  let digits := Nat.toDigits 16 n
  List.replicate (width - digits.length) '0' ++ digits

end Numeral
end LineLexer
