import LineLexer.Text.Quoted

set_option autoImplicit false

namespace LineLexer.CommandLine

inductive Setting where
  | help
  | output
  | format
  | diagnostics
  | config
  | debug
  deriving DecidableEq, Repr

namespace Setting

def all : List Setting :=
  [.help, .output, .format, .diagnostics, .config, .debug]

def names : Setting → List Text
  | help => ["-h".toList, "--help".toList]
  | output => ["-o".toList, "--output".toList]
  | format => ["-f".toList, "--format".toList]
  | diagnostics => ["--diagnostics".toList]
  | config => ["--config".toList]
  | debug => ["--debug".toList]

def takesValue : Setting → Bool
  | output => true
  | format => true
  | config => true
  | _ => false

def shown (setting : Setting) : Text :=
  ['/'].intercalate setting.names

def allNames : List (Text × Setting) :=
  all.flatMap fun setting => setting.names.map fun name => (name, setting)

-- One letter behind one dash, the same with an equals sign after it, or a word behind two dashes.
inductive Name where
  | short
  | shortEquals
  | long
  deriving DecidableEq, Repr

def Name.of (text : Text) : Name :=
  if ['-', '-'].isPrefixOf text then .long else .short

def Name.equals : Name → Name
  | short => shortEquals
  | name => name

def ofName? (name : Text) : Option Setting :=
  allNames.lookup name

end Setting
end LineLexer.CommandLine
