import LineLexer.CommandLine.Usage
import LineLexer.Text.CharClass

set_option autoImplicit false

namespace LineLexer.CommandLine

-- The library that reads command lines changed between two releases. The earlier one drops `--` as
-- the value of a setting, and letters behind a short setting that name none are an error at once;
-- the later one keeps the value and leaves such letters over.
inductive Release where
  | earlier
  | later
  deriving DecidableEq, Repr

inductive FormatChoice where
  | chosen (format : Format)
  | nothing
  deriving DecidableEq, Repr

structure Arguments where
  input : Text
  output : Option Text := none
  format : Option FormatChoice := none
  diagnostics : Bool := false
  config : Option Text := none
  debug : Bool := false
  deriving DecidableEq, Repr

inductive Piece where
  | separator
  | value (text : Text)
  | setting (setting : Setting) (name : Setting.Name) (value : Option Text)
  | unknown (text : Text)
  deriving DecidableEq, Repr

def isFraction (text : Text) : Bool :=
  match text.dropWhile isDecimalDigit with
  | '.' :: rest => !rest.isEmpty && rest.all isDecimalDigit
  | _ => false

def withoutFinalNewline (text : Text) : Text :=
  if text.getLast? = some '\n' then text.dropLast else text

-- Such arguments are values, because no setting has a number for a name.
def isNegativeNumber : Text → Bool
  | '-' :: text =>
    let digits := withoutFinalNewline text
    (!digits.isEmpty && digits.all isDecimalDigit) || isFraction digits
  | _ => false

def splitEquals (text : Text) : Text × Option Text :=
  match text.dropWhile (· != '=') with
  | '=' :: value => (text.takeWhile (· != '='), some value)
  | _ => (text, none)

def candidates (argument : Text) : List (Text × Piece) :=
  if ['-', '-'].isPrefixOf argument then
    let (start, value) := splitEquals argument
    (Setting.allNames.filter fun (name, _) => start.isPrefixOf name).map fun (name, setting) =>
      (name, .setting setting .long value)
  else
    (Setting.allNames.filter fun (name, _) => name == argument.take 2).map fun (name, setting) =>
      (name, .setting setting .short (some (argument.drop 2)))

def fullName? (argument : Text) : Option Piece :=
  match Setting.ofName? argument, splitEquals argument with
  | some setting, _ => some (.setting setting (.of argument) none)
  | none, (name, some value) =>
    (Setting.ofName? name).map fun setting =>
      .setting setting (Setting.Name.of name).equals (some value)
  | none, (_, none) => none

def dashed (argument : Text) : Except UsageError Piece :=
  match fullName? argument with
  | some piece => .ok piece
  | none =>
    if argument = ['-'] then .ok (.value argument)
    else
      match candidates argument with
      | [(_, piece)] => .ok piece
      | [] =>
        if isNegativeNumber argument || argument.contains ' ' then .ok (.value argument)
        else .ok (.unknown argument)
      | several => .error (.ambiguous argument (several.map (·.1)))

def pieces : List Text → Except UsageError (List Piece)
  | [] => .ok []
  | argument :: rest =>
    if argument = ['-', '-'] then .ok (.separator :: rest.map .value)
    else do
      let piece ← if argument.head? = some '-' then dashed argument else .ok (.value argument)
      return piece :: (← pieces rest)

inductive Stop where
  | help
  | error (error : UsageError)
  deriving DecidableEq, Repr

structure Packed where
  given : List (Setting × Option Text) := []
  wanting : Option Setting := none
  extras : List Text := []
  deriving DecidableEq, Repr

def Packed.single (setting : Setting) (value : Option Text) : Packed :=
  if setting.takesValue && value.isNone then { wanting := some setting }
  else { given := [(setting, value)] }

def Packed.behind (packed : Packed) (setting : Setting) : Packed :=
  { packed with given := (setting, none) :: packed.given }

def unpackWhole (setting : Setting) (value : Text) : Except UsageError Packed :=
  if setting.takesValue then .ok (.single setting (some value))
  else .error (.ignoredValue setting value)

def unpackShort (release : Release) (setting : Setting) : Text → Except UsageError Packed
  | [] => .ok (.single setting none)
  | c :: rest =>
    if setting.takesValue then .ok (.single setting (some (c :: rest)))
    else
      match Setting.ofName? ['-', c] with
      | none =>
        if release = .later ∧ c ≠ '-' then
          .ok { given := [(setting, none)], extras := ['-' :: c :: rest] }
        else .error (.ignoredValue setting (c :: rest))
      | some next =>
        let behind :=
          if release = .later ∧ rest.head? = some '=' then unpackWhole next rest.tail
          else unpackShort release next rest
        behind.map (·.behind setting)

def Setting.Name.packs (release : Release) : Name → Bool
  | short => true
  | shortEquals => release = .earlier
  | long => false

def unpack (release : Release) (setting : Setting) (name : Setting.Name) :
    Option Text → Except UsageError Packed
  | none => .ok (.single setting none)
  | some value =>
    if name.packs release ∧ value ≠ [] then unpackShort release setting value
    else unpackWhole setting value

structure Draft where
  input : Option Text := none
  output : Option Text := none
  format : Option FormatChoice := none
  diagnostics : Bool := false
  config : Option Text := none
  debug : Bool := false
  extras : List Text := []
  deriving DecidableEq, Repr

namespace Draft

def value? (release : Release) (text : Text) : Option Text :=
  if release = .earlier ∧ text = ['-', '-'] then none else some text

def choice (release : Release) (text : Text) : Except Stop FormatChoice :=
  match value? release text with
  | none => .ok .nothing
  | some name =>
    match Format.ofName? name with
    | some format => .ok (.chosen format)
    | none => .error (.error (.invalidFormat name))

def take (release : Release) (draft : Draft) (setting : Setting) (value : Text) :
    Except Stop Draft :=
  match setting with
  | .help => .error .help
  | .output => .ok { draft with output := value? release value }
  | .format => do
    let format ← choice release value
    return { draft with format := some format }
  | .diagnostics => .ok { draft with diagnostics := true }
  | .config => .ok { draft with config := value? release value }
  | .debug => .ok { draft with debug := true }

def takeAll (release : Release) (draft : Draft) : List (Setting × Option Text) → Except Stop Draft
  | [] => .ok draft
  | (setting, value) :: rest => do
    let draft ← draft.take release setting (value.getD [])
    draft.takeAll release rest

def extra (draft : Draft) (texts : List Text) : Draft :=
  { draft with extras := draft.extras ++ texts }

def usage {A : Type} (error : UsageError) : Except Stop A :=
  .error (.error error)

-- The first value is the input, and a separator beside it goes with it; a setting that wants a
-- value takes the value directly after it.
def consume (release : Release) : Draft → List Piece → Except Stop Draft
  | draft, [] => .ok draft
  | draft, .separator :: .value text :: rest =>
    if draft.input.isNone then consume release { draft with input := some text } rest
    else consume release (draft.extra [['-', '-'], text]) rest
  | draft, .separator :: rest => consume release (draft.extra [['-', '-']]) rest
  | draft, .value text :: .separator :: rest =>
    if draft.input.isNone then consume release { draft with input := some text } rest
    else consume release (draft.extra [text, ['-', '-']]) rest
  | draft, .value text :: rest =>
    if draft.input.isNone then consume release { draft with input := some text } rest
    else consume release (draft.extra [text]) rest
  | draft, .unknown text :: rest => consume release (draft.extra [text]) rest
  | draft, .setting setting name value :: rest =>
    match unpack release setting name value with
    | .error error => usage error
    | .ok packed =>
      match packed.wanting with
      | none => do
        let draft ← (draft.extra packed.extras).takeAll release packed.given
        consume release draft rest
      | some wanting =>
        match rest with
        | .value text :: rest => do
          let draft ← draft.takeAll release (packed.given ++ [(wanting, some text)])
          consume release draft rest
        | _ => usage (.expectedValue wanting)

def finish (draft : Draft) : Except Stop Arguments :=
  match draft.input with
  | none => usage .inputRequired
  | some input =>
    if draft.extras.isEmpty then
      .ok
        { input, output := draft.output, format := draft.format
          diagnostics := draft.diagnostics, config := draft.config, debug := draft.debug }
    else usage (.unrecognized draft.extras)

end Draft

def parse (release : Release) (arguments : List Text) : Except Stop Arguments :=
  match pieces arguments with
  | .error error => .error (.error error)
  | .ok pieces => do
    let draft ← Draft.consume release {} pieces
    draft.finish

end LineLexer.CommandLine
