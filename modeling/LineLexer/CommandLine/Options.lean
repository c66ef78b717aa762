import LineLexer.CommandLine.Arguments
import LineLexer.FileTree
import LineLexer.Toml.Reader

set_option autoImplicit false

namespace LineLexer.CommandLine

structure Options where
  -- None reads standard input.
  input : Option Path
  output : Option Path
  format : FormatChoice
  diagnostics : Bool
  debug : Bool
  deriving DecidableEq, Repr

inductive ConfigError where
  | format (value : Toml.Value)
  | toml (error : Toml.Error)
  | encoding (error : Utf8.Error)
  | unshowable
  deriving Repr

def ConfigError.message : ConfigError → Text
  | format value =>
    "invalid output format in config: ".toList ++ value.shown ++ ' ' :: Format.expected
  | toml error => error.message
  | encoding error => error.message
  | unshowable => Toml.DigitExcess.shown.message

structure Config where
  format : Option Format := none
  diagnostics : Option Bool := none
  deriving DecidableEq, Repr

namespace Config

def outputEntries (document : Toml.Entries) : Toml.Entries :=
  match document.lookup "output".toList with
  | some (.table entries) => entries
  | _ => []

def unusable (value : Toml.Value) : ConfigError :=
  if value.exceedsDigits then .unshowable else .format value

-- An unusable format is an error, an unusable switch is as good as none.
def ofEntries (document : Toml.Entries) : Except ConfigError Config :=
  let entries := outputEntries document
  let diagnostics :=
    match entries.lookup "diagnostics".toList with
    | some (.boolean given) => some given
    | _ => none
  match entries.lookup "format".toList with
  | none => .ok { diagnostics }
  | some (.string name) =>
    match Format.ofName? name with
    | some format => .ok { format := some format, diagnostics }
    | none => .error (unusable (.string name))
  | some value => .error (unusable value)

def ofBytes (content : Bytes) : Except ConfigError Config :=
  match Utf8.decode content with
  | .error error => .error (.encoding error)
  | .ok text =>
    match Toml.read text with
    | .error error => .error (.toml error)
    | .ok document => ofEntries document

def load : Option Bytes → Except ConfigError Config
  | none => .ok {}
  | some content => ofBytes content

end Config

namespace Arguments

def readsStandardInput (arguments : Arguments) : Bool :=
  arguments.input == ['-']

def inputPath (arguments : Arguments) : Option Path :=
  if arguments.readsStandardInput then none else some (.of arguments.input)

def outputPath (arguments : Arguments) : Option Path :=
  (arguments.output.filter (!·.isEmpty)).map .of

def configPath (arguments : Arguments) : Path :=
  match arguments.config.filter (!·.isEmpty) with
  | some name => .of name
  | none => ((arguments.inputPath.map Path.parent).getD {}).child "lexscan.toml".toList

-- The command line wins over the config file, and the config file over the defaults.
def merge (arguments : Arguments) (config : Config) : Options where
  input := arguments.inputPath
  output := arguments.outputPath
  format := arguments.format.getD (.chosen (config.format.getD .text))
  diagnostics := arguments.diagnostics || config.diagnostics.getD false
  debug := arguments.debug

def resolve (arguments : Arguments) (tree : FileTree) : Except ConfigError Options :=
  (Config.load (tree.regular? arguments.configPath)).map arguments.merge

end Arguments
end LineLexer.CommandLine
