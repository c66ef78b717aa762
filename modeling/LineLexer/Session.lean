import LineLexer.Listing
import LineLexer.Scanner
import LineLexer.Table

set_option autoImplicit false

namespace LineLexer

abbrev Session := Table Text Scanner

inductive Command where
  | scan
  | word (word : Word)
  | render (format : Text)
  | dump
  deriving DecidableEq

inductive Reply where
  | created
  | scanned (tokens : List Token)
  | classified (added : List Token)
  | output (text : Text)
  | halted (halt : Halt)
  | unknownFormat (error : UnknownFormat)
  | unknownScanner
  deriving DecidableEq

def Scanner.perform (scanner : Scanner) : Command → Scanner × Reply
  | .scan =>
    match scanner.scan with
    | (after, none) => (after, .scanned after.tokens)
    | (after, some halt) => (after, .halted halt)
  | .word word =>
    match scanner.classify word with
    | (after, none) => (after, .classified (after.tokens.drop scanner.tokens.length))
    | (after, some halt) => (after, .halted halt)
  | .render format =>
    match Listing.renderNamed scanner.tokens format with
    | .ok text => (scanner, .output text)
    | .error error => (scanner, .unknownFormat error)
  | .dump => (scanner, .output scanner.dump)

inductive Request where
  | create (name : Text) (scanner : Scanner)
  | perform (name : Text) (command : Command)
  deriving DecidableEq

def Request.name : Request → Text
  | create name _ => name
  | perform name _ => name

def Session.step (session : Session) : Request → Session × Reply
  | .create name scanner => (session.put name scanner, .created)
  | .perform name command =>
    match session.get? name with
    | none => (session, .unknownScanner)
    | some scanner =>
      let (after, reply) := scanner.perform command
      (session.put name after, reply)

end LineLexer
