import LineLexer.Path
import LineLexer.Table
import LineLexer.Text.Quoted
import LineLexer.Text.Utf8

set_option autoImplicit false

namespace LineLexer

inductive Base where
  | working (above : Nat)
  | root
  deriving DecidableEq, Repr

structure Location where
  base : Base := .working 0
  parts : List Text := []
  deriving DecidableEq, Repr

def Location.up (location : Location) : Location :=
  match location.base, location.parts with
  | .working above, [] => { base := .working (above + 1) }
  | .root, [] => location
  | _, parts => { location with parts := parts.dropLast }

def Location.enter (location : Location) (part : Text) : Location :=
  if part = ['.', '.'] then location.up else { location with parts := location.parts ++ [part] }

def Location.isWithin (location directory : Location) : Bool :=
  location.base == directory.base && directory.parts.isPrefixOf location.parts

inductive Node where
  | file (content : Bytes)
  | directory
  deriving DecidableEq, Repr

structure FileTree where
  files : Table Location Bytes := []
  directories : List Location := []
  deriving DecidableEq, Repr

inductive FileProblem where
  | notFound
  | notDirectory
  | isDirectory
  deriving DecidableEq, Repr

structure FileError where
  problem : FileProblem
  path : Path
  deriving DecidableEq, Repr

def FileProblem.message : FileProblem → Text
  | notFound => "[Errno 2] No such file or directory".toList
  | notDirectory => "[Errno 20] Not a directory".toList
  | isDirectory => "[Errno 21] Is a directory".toList

def FileError.message (error : FileError) : Text :=
  error.problem.message ++ ": ".toList ++ error.path.shown.quoted

namespace FileTree

def isDirectory (tree : FileTree) (location : Location) : Bool :=
  tree.directories.any (·.isWithin location) || tree.files.any (·.1.isWithin location)

-- Where a location begins there is always a directory.
def node? (tree : FileTree) (location : Location) : Option Node :=
  if location.parts.isEmpty then some .directory
  else
    match tree.files.get? location with
    | some content => some (.file content)
    | none => if tree.isDirectory location then some .directory else none

def walk (tree : FileTree) : Location → List Text → Except FileProblem Location
  | here, [] => .ok here
  | here, part :: rest =>
    match tree.node? here with
    | some .directory => walk tree (here.enter part) rest
    | some (.file _) => .error .notDirectory
    | none => .error .notFound

def locate (tree : FileTree) (path : Path) : Except FileProblem Location :=
  match path.root with
  | .relative => tree.walk {} path.parts
  | _ => tree.walk { base := .root } path.parts

def contentAt (tree : FileTree) (location : Location) : Except FileProblem Bytes :=
  match tree.node? location with
  | some (.file content) => .ok content
  | some .directory => .error .isDirectory
  | none => .error .notFound

def read (tree : FileTree) (path : Path) : Except FileError Bytes :=
  match tree.locate path >>= tree.contentAt with
  | .ok content => .ok content
  | .error problem => .error { problem, path }

def write (tree : FileTree) (path : Path) (content : Bytes) : Except FileError FileTree :=
  match tree.locate path with
  | .error problem => .error { problem, path }
  | .ok location =>
    if tree.node? location = some .directory then .error { problem := .isDirectory, path }
    else .ok { tree with files := tree.files.put location content }

def regular? (tree : FileTree) (path : Path) : Option Bytes :=
  if path.hasNul then none else (tree.read path).toOption

def changes (before after : FileTree) : List (List Text × Bytes) :=
  after.files.filterMap fun (location, content) =>
    if location.base = .working 0 ∧ before.files.get? location ≠ some content then
      some (location.parts, content)
    else none

end FileTree
end LineLexer
