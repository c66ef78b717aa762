import LineLexer.Decimal.Shortest
import LineLexer.Text.Quoted
import LineLexer.Toml.Error
import LineLexer.Toml.Moment

set_option autoImplicit false

namespace LineLexer.Toml

inductive Number where
  | finite (negative : Bool) (size : Binary)
  | infinity (negative : Bool)
  | nan
  deriving DecidableEq, Repr

inductive Value where
  | string (text : Text)
  | integer (value : Int)
  | number (value : Number)
  | boolean (value : Bool)
  | moment (value : Moment)
  | array (items : List Value)
  | table (entries : List (Text × Value))
  deriving Repr

abbrev Entries := List (Text × Value)

def sign (negative : Bool) : Text :=
  if negative then ['-'] else []

namespace Number

def ofDecimal (negative : Bool) (decimal : Decimal) : Number :=
  match decimal.nearest? with
  | some size => finite negative size
  | none => infinity negative

def shown : Number → Text
  | finite negative size => sign negative ++ size.shortest.shown
  | infinity negative => sign negative ++ "inf".toList
  | nan => "nan".toList

end Number

namespace Value

def isContainer : Value → Bool
  | array _ => true
  | table _ => true
  | _ => false

mutual

def shown : Value → Text
  | string text => text.quoted
  | integer value => Numeral.int value
  | number value => value.shown
  | boolean value => if value then "True".toList else "False".toList
  | moment value => value.shown
  | array items => '[' :: Text.commaSeparated (shownItems items) ++ [']']
  | table entries => '{' :: Text.commaSeparated (shownEntries entries) ++ ['}']

def shownItems : List Value → List Text
  | [] => []
  | item :: rest => item.shown :: shownItems rest

def shownEntries : List (Text × Value) → List Text
  | [] => []
  | (key, value) :: rest => (key.quoted ++ ": ".toList ++ value.shown) :: shownEntries rest

end

mutual

def exceedsDigits : Value → Bool
  | integer value => decide (Nat.pow 10 digitLimit ≤ value.natAbs)
  | array items => anyExceedsDigits items
  | table entries => anyEntryExceedsDigits entries
  | _ => false

def anyExceedsDigits : List Value → Bool
  | [] => false
  | item :: rest => item.exceedsDigits || anyExceedsDigits rest

def anyEntryExceedsDigits : List (Text × Value) → Bool
  | [] => false
  | (_, value) :: rest => value.exceedsDigits || anyEntryExceedsDigits rest

end

end Value
end LineLexer.Toml
