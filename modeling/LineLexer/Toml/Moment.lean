import LineLexer.Text.Quoted

set_option autoImplicit false

namespace LineLexer.Toml

structure Date where
  year : Nat
  month : Nat
  day : Nat
  deriving DecidableEq, Repr

structure Clock where
  hour : Nat
  minute : Nat
  second : Nat
  microsecond : Nat
  deriving DecidableEq, Repr

inductive Moment where
  | date (date : Date)
  | clock (clock : Clock)
  | dateTime (date : Date) (clock : Clock) (offset : Option Int)
  deriving DecidableEq, Repr

namespace Date

def isLeap (year : Nat) : Bool :=
  year % 4 == 0 && (year % 100 != 0 || year % 400 == 0)

def lastDay (year month : Nat) : Nat :=
  if month = 2 then if isLeap year then 29 else 28
  else if month ∈ [4, 6, 9, 11] then 30
  else 31

def isValid (date : Date) : Bool :=
  1 ≤ date.year && 1 ≤ date.month && date.month ≤ 12 && 1 ≤ date.day &&
    date.day ≤ lastDay date.year date.month

def fields (date : Date) : List Text :=
  [date.year, date.month, date.day].map Numeral.nat

end Date

def Clock.fields (clock : Clock) : List Text :=
  let seconds :=
    if clock.microsecond ≠ 0 then [clock.second, clock.microsecond]
    else if clock.second ≠ 0 then [clock.second]
    else []
  ([clock.hour, clock.minute] ++ seconds).map Numeral.nat

namespace Moment

def isValid : Moment → Bool
  | date day => day.isValid
  | clock _ => true
  | dateTime day _ _ => day.isValid

def call (name : Text) (fields : List Text) : Text :=
  "datetime.".toList ++ name ++ '(' :: Text.commaSeparated fields ++ [')']

-- A time behind universal time is written as a day less and seconds more.
def zone (offset : Int) : Text :=
  let difference : List Text :=
    if offset < 0 then
      ["days=-1".toList, "seconds=".toList ++ Numeral.int (86400 + 60 * offset)]
    else ["seconds=".toList ++ Numeral.int (60 * offset)]
  if offset = 0 then "datetime.timezone.utc".toList
  else call "timezone".toList [call "timedelta".toList difference]

def zoneFields : Option Int → List Text
  | none => []
  | some offset => ["tzinfo=".toList ++ zone offset]

def shown : Moment → Text
  | date day => call "date".toList day.fields
  | clock time => call "time".toList time.fields
  | dateTime day time offset =>
    call "datetime".toList (day.fields ++ time.fields ++ zoneFields offset)

end Moment

def field? (count low high : Nat) (text : Text) : Option (Nat × Text) :=
  let digits := text.take count
  let value := digits.foldl (fun value c => value * 10 + (c.toNat - '0'.toNat)) 0
  if digits.length = count ∧ digits.all Char.isDigit ∧ low ≤ value ∧ value ≤ high then
    some (value, text.drop count)
  else none

def date? (text : Text) : Option (Date × Text) := do
  let (year, text) ← field? 4 0 9999 text
  let (month, text) ← field? 2 1 12 (← Text.after? ['-'] text)
  let (day, text) ← field? 2 1 31 (← Text.after? ['-'] text)
  return ({ year, month, day }, text)

def microseconds (text : Text) : Nat × Text :=
  match text with
  | '.' :: rest =>
    let digits := rest.takeWhile Char.isDigit
    let six := digits.take 6 ++ List.replicate (6 - digits.length) '0'
    match digits, field? 6 0 999999 six with
    | _ :: _, some (value, _) => (value, rest.dropWhile Char.isDigit)
    | _, _ => (0, text)
  | _ => (0, text)

def clock? (text : Text) : Option (Clock × Text) := do
  let (hour, text) ← field? 2 0 23 text
  let (minute, text) ← field? 2 0 59 (← Text.after? [':'] text)
  let (second, text) ← field? 2 0 59 (← Text.after? [':'] text)
  let (microsecond, text) := microseconds text
  return ({ hour, minute, second, microsecond }, text)

def hoursAndMinutes? (text : Text) : Option (Int × Text) := do
  let (hours, text) ← field? 2 0 23 text
  let (minutes, text) ← field? 2 0 59 (← Text.after? [':'] text)
  return (60 * hours + minutes, text)

def offset? : Text → Option (Int × Text)
  | 'Z' :: rest => some (0, rest)
  | 'z' :: rest => some (0, rest)
  | '+' :: rest => hoursAndMinutes? rest
  | '-' :: rest => (hoursAndMinutes? rest).map fun (minutes, rest) => (-minutes, rest)
  | _ => none

def clockOfDay? : Text → Option (Clock × Text)
  | mark :: rest => if mark ∈ ['T', 't', ' '] then clock? rest else none
  | [] => none

def moment? (text : Text) : Option (Moment × Text) :=
  match date? text with
  | none => (clock? text).map fun (clock, rest) => (.clock clock, rest)
  | some (date, afterDate) =>
    match clockOfDay? afterDate with
    | none => some (.date date, afterDate)
    | some (clock, afterClock) =>
      match offset? afterClock with
      | none => some (.dateTime date clock none, afterClock)
      | some (offset, rest) => some (.dateTime date clock (some offset), rest)

end LineLexer.Toml
