import LineLexer.Text.Basic

set_option autoImplicit false

namespace LineLexer

abbrev Bytes := List UInt8

def Text.utf8 (text : Text) : Bytes :=
  text.flatMap String.utf8EncodeChar

namespace Utf8

inductive Reason where
  | startByte
  | continuationByte
  | endOfData
  deriving DecidableEq, Repr

structure Error where
  byte : UInt8
  start : Nat
  stop : Nat
  reason : Reason
  deriving DecidableEq, Repr

def Reason.message : Reason → Text
  | startByte => "invalid start byte".toList
  | continuationByte => "invalid continuation byte".toList
  | endOfData => "unexpected end of data".toList

def Error.place (error : Error) : Text :=
  if error.stop = error.start + 1 then
    "byte 0x".toList ++ Numeral.hex 2 error.byte.toNat ++ " in position ".toList ++
      Numeral.nat error.start
  else
    "bytes in position ".toList ++ Numeral.nat error.start ++ '-' :: Numeral.nat (error.stop - 1)

def Error.message (error : Error) : Text :=
  "'utf-8' codec can't decode ".toList ++ error.place ++ ": ".toList ++ error.reason.message

structure Pending where
  lead : UInt8
  start : Nat
  owed : Nat
  low : UInt8
  high : UInt8
  value : Nat
  deriving DecidableEq, Repr

-- The narrower second ranges shut out overlong forms, surrogates and values above U+10FFFF.
def Pending.ofLead? (lead : UInt8) (start : Nat) : Option Pending :=
  if 0xC2 ≤ lead ∧ lead ≤ 0xDF then
    some { lead, start, owed := 1, low := 0x80, high := 0xBF, value := lead.toNat % 0x20 }
  else if 0xE0 ≤ lead ∧ lead ≤ 0xEF then
    some
      { lead, start, owed := 2, low := if lead = 0xE0 then 0xA0 else 0x80
        high := if lead = 0xED then 0x9F else 0xBF, value := lead.toNat % 0x10 }
  else if 0xF0 ≤ lead ∧ lead ≤ 0xF4 then
    some
      { lead, start, owed := 3, low := if lead = 0xF0 then 0x90 else 0x80
        high := if lead = 0xF4 then 0x8F else 0xBF, value := lead.toNat % 8 }
  else none

def Pending.accept (pending : Pending) (byte : UInt8) : Pending :=
  { pending with
    owed := pending.owed - 1, low := 0x80, high := 0xBF
    value := pending.value * 0x40 + byte.toNat % 0x40 }

def Pending.error (pending : Pending) (stop : Nat) (reason : Reason) : Error where
  byte := pending.lead
  start := pending.start
  stop := stop
  reason := reason

def decodeFrom : (offset : Nat) → Option Pending → Bytes → Except Error Text
  | _, none, [] => .ok []
  | offset, some pending, [] => .error (pending.error offset .endOfData)
  | offset, none, byte :: rest =>
    if byte < 0x80 then
      (decodeFrom (offset + 1) none rest).map (Char.ofNat byte.toNat :: ·)
    else
      match Pending.ofLead? byte offset with
      | some pending => decodeFrom (offset + 1) (some pending) rest
      | none => .error { byte, start := offset, stop := offset + 1, reason := .startByte }
  | offset, some pending, byte :: rest =>
    if pending.low ≤ byte ∧ byte ≤ pending.high then
      let next := pending.accept byte
      if next.owed = 0 then (decodeFrom (offset + 1) none rest).map (Char.ofNat next.value :: ·)
      else decodeFrom (offset + 1) (some next) rest
    else .error (pending.error offset .continuationByte)

def decode (bytes : Bytes) : Except Error Text :=
  decodeFrom 0 none bytes

end Utf8
end LineLexer
