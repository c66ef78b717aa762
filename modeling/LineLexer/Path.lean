import LineLexer.Text.Basic

set_option autoImplicit false

namespace LineLexer

-- Exactly two slashes in front are a root of their own.
inductive Root where
  | relative
  | slash
  | doubleSlash
  deriving DecidableEq, Repr

structure Path where
  root : Root := .relative
  parts : List Text := []
  deriving DecidableEq, Repr

def Root.shown : Root → Text
  | relative => []
  | slash => "/".toList
  | doubleSlash => "//".toList

def Root.of : Text → Root
  | '/' :: '/' :: '/' :: _ => .slash
  | '/' :: '/' :: _ => .doubleSlash
  | '/' :: _ => .slash
  | _ => .relative

namespace Path

def of (text : Text) : Path where
  root := .of text
  parts := (text.splitOn '/').filter fun part => !(part.isEmpty || part == ['.'])

def shown (path : Path) : Text :=
  match path.root, path.parts with
  | .relative, [] => ['.']
  | root, parts => root.shown ++ ['/'].intercalate parts

def parent (path : Path) : Path :=
  { path with parts := path.parts.dropLast }

def child (path : Path) (name : Text) : Path :=
  { path with parts := path.parts ++ [name] }

def hasNul (path : Path) : Bool :=
  path.parts.any (·.contains '\x00')

end Path
end LineLexer
