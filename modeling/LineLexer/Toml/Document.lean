import LineLexer.Toml.Error
import LineLexer.Toml.Value

set_option autoImplicit false

namespace LineLexer.Toml

namespace Entries

def replace (key : Text) (value : Value) : Entries → Entries
  | [] => []
  | (found, old) :: rest =>
    if found = key then (key, value) :: rest else (found, old) :: replace key value rest

def modifyAt (change : Entries → Option Entries) : Key → Entries → Option Entries
  | [], entries => change entries
  | part :: path, entries =>
    match entries.lookup part with
    | none => (modifyAt change path []).map fun inner => entries ++ [(part, .table inner)]
    | some (.table inner) =>
      (modifyAt change path inner).map fun inner => replace part (.table inner) entries
    | some (.array items) =>
      match items.getLast? with
      | some (.table inner) =>
        (modifyAt change path inner).map fun inner =>
          replace part (.array (items.dropLast ++ [.table inner])) entries
      | _ => none
    | some _ => none

def add (key : Text) (value : Value) (entries : Entries) : Option Entries :=
  if (entries.lookup key).isSome then none else some (entries ++ [(key, value)])

def appendTable (key : Text) (entries : Entries) : Option Entries :=
  match entries.lookup key with
  | none => some (entries ++ [(key, .array [.table []])])
  | some (.array items) => some (replace key (.array (items ++ [.table []])) entries)
  | some _ => none

end Entries

structure Document where
  entries : Entries := []
  header : Key := []
  declared : List Key := []
  -- Tables that dotted keys of this section go through; declared once the section ends.
  pending : List Key := []
  frozen : List Key := []
  deriving Repr

namespace Document

def isFrozen (document : Document) (key : Key) : Bool :=
  document.frozen.any fun path => path.isPrefixOf key

def endSection (document : Document) : Document :=
  { document with declared := document.pending ++ document.declared, pending := [] }

def declareTable (document : Document) (key : Key) : Except Problem Document :=
  if document.declared.contains key || document.isFrozen key then .error (.declaredTwice key)
  else
    match Entries.modifyAt some key document.entries with
    | none => .error .overwritten
    | some entries =>
      .ok { document with entries, header := key, declared := key :: document.declared }

-- The new item frees all names below the key for another declaration.
def declareItem (document : Document) (key : Key) : Except Problem Document :=
  if document.isFrozen key then .error (.immutable key)
  else
    let isFree (path : Key) := !key.isPrefixOf path
    match Entries.modifyAt (Entries.appendTable (key.getLastD [])) key.dropLast
        document.entries with
    | none => .error .overwritten
    | some entries =>
      .ok
        { document with
          entries, header := key
          declared := key :: document.declared.filter isFree
          frozen := document.frozen.filter isFree }

def properPrefixes (key : Key) : List Key :=
  (List.range key.length).tail.map key.take

def assign (document : Document) (key : Key) (value : Value) : Except Problem Document :=
  let path := document.header ++ key
  let containers := (properPrefixes key).map (document.header ++ ·)
  match containers.find? document.declared.contains with
  | some container => .error (.redefined container)
  | none =>
    if document.isFrozen path.dropLast then .error (.immutable path.dropLast)
    else
      match Entries.modifyAt (Entries.add (key.getLastD []) value) path.dropLast
          document.entries with
      | none => .error .overwritten
      | some entries =>
        .ok
          { document with
            entries
            pending := containers ++ document.pending
            frozen := if value.isContainer then path :: document.frozen else document.frozen }

end Document
end LineLexer.Toml
