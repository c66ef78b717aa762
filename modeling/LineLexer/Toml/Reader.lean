import LineLexer.Text.Basic
import LineLexer.Toml.Document
import LineLexer.Toml.Lexeme

set_option autoImplicit false

namespace LineLexer.Toml

structure Inline where
  entries : Entries := []
  frozen : List Key := []

def Inline.assign (inline : Inline) (key : Key) (value : Value) : Except Problem Inline :=
  if inline.frozen.any (·.isPrefixOf key) then .error (.immutable key)
  else
    match Entries.modifyAt some key.dropLast inline.entries with
    | none => .error .overwritten
    | some _ =>
      let stem := key.getLastD []
      match Entries.modifyAt (Entries.add stem value) key.dropLast inline.entries with
      | none => .error (.duplicateKey stem)
      | some entries =>
        .ok { entries, frozen := if value.isContainer then key :: inline.frozen else inline.frozen }

def expectEquals : Text → Except Failure Text
  | '=' :: rest => .ok (skipSpaces rest)
  | text => fail .expectedEquals text

mutual

def value : (fuel : Nat) → Text → Except Failure (Value × Text)
  | 0, text => fail .invalidValue text
  | fuel + 1, text =>
    match text with
    | '"' :: rest => (string '"' rest).map fun (read, rest) => (.string read, rest)
    | '\'' :: rest => (string '\'' rest).map fun (read, rest) => (.string read, rest)
    | '[' :: rest => do
      let rest ← skipBetweenItems rest
      let (items, rest) ← arrayItems fuel rest
      return (.array items, rest)
    | '{' :: rest =>
      match skipSpaces rest with
      | '}' :: rest => .ok (.table [], rest)
      | rest => do
        let (entries, rest) ← inlineEntries fuel {} rest
        return (.table entries, rest)
    | text => scalar text

def arrayItems : (fuel : Nat) → Text → Except Failure (List Value × Text)
  | 0, text => fail .unclosedArray text
  | fuel + 1, text =>
    match text with
    | ']' :: rest => .ok ([], rest)
    | text => do
      let (item, rest) ← value fuel text
      match ← skipBetweenItems rest with
      | ']' :: rest => return ([item], rest)
      | ',' :: rest => do
        let rest ← skipBetweenItems rest
        let (items, rest) ← arrayItems fuel rest
        return (item :: items, rest)
      | rest => fail .unclosedArray rest

def inlineEntries : (fuel : Nat) → Inline → Text → Except Failure (Entries × Text)
  | 0, _, text => fail .unclosedTable text
  | fuel + 1, inline, text => do
    let (key, rest) ← key text
    let rest ← expectEquals rest
    let (found, rest) ← value fuel rest
    match inline.assign key found with
    | .error problem => fail problem rest
    | .ok inline =>
      match skipSpaces rest with
      | '}' :: rest => return (inline.entries, rest)
      | ',' :: rest => inlineEntries fuel inline (skipSpaces rest)
      | rest => fail .unclosedTable rest

end

def liftProblem {A : Type} (rest : Text) : Except Problem A → Except Failure A
  | .ok result => .ok result
  | .error problem => fail problem rest

-- Each level of nesting reads a character and takes two units of fuel.
def assignment (document : Document) (text : Text) : Except Failure (Document × Text) := do
  let (key, rest) ← key text
  let rest ← expectEquals rest
  let (value, rest) ← value (2 * rest.length + 2) rest
  let document ← liftProblem rest (document.assign key value)
  return (document, rest)

def tableHeader (document : Document) (text : Text) : Except Failure (Document × Text) := do
  let (key, rest) ← key (skipSpaces text)
  let document ← liftProblem rest (document.declareTable key)
  match rest with
  | ']' :: rest => return (document, rest)
  | rest => fail .expectedTableEnd rest

def itemHeader (document : Document) (text : Text) : Except Failure (Document × Text) := do
  let (key, rest) ← key (skipSpaces text)
  let document ← liftProblem rest (document.declareItem key)
  match rest with
  | ']' :: ']' :: rest => return (document, rest)
  | rest => fail .expectedArrayEnd rest

def isKeyStart (c : Char) : Bool :=
  isBareKeyChar c || c == '"' || c == '\''

def statement (document : Document) (text : Text) : Except Failure (Document × Text) :=
  match text with
  | '[' :: '[' :: rest => itemHeader document.endSection rest
  | '[' :: rest => tableHeader document.endSection rest
  | '#' :: _ => .ok (document, text)
  | text =>
    if text.head?.any isKeyStart then assignment document text else fail .invalidStatement text

def statements : (fuel : Nat) → Document → Text → Except Failure Document
  | 0, document, _ => .ok document
  | fuel + 1, document, text =>
    match skipSpaces text with
    | [] => .ok document
    | '\n' :: rest => statements fuel document rest
    | text => do
      let (document, rest) ← statement document text
      match ← skipComment (skipSpaces rest) with
      | [] => return document
      | '\n' :: rest => statements fuel document rest
      | rest => fail .expectedNewline rest

def read (text : Text) : Except Error Entries :=
  let source := text.withoutReturns
  match statements (source.length + 1) {} source with
  | .ok document => .ok document.entries
  | .error failure => .error (failure.locate source)

end LineLexer.Toml
