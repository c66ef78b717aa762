import LineLexer.CommandLine.Setting
import LineLexer.Diagnostic
import LineLexer.Listing

set_option autoImplicit false

namespace LineLexer.CommandLine

inductive UsageError where
  | inputRequired
  | unrecognized (arguments : List Text)
  | ambiguous (argument : Text) (candidates : List Text)
  | expectedValue (setting : Setting)
  | ignoredValue (setting : Setting) (value : Text)
  | invalidFormat (value : Text)
  deriving DecidableEq, Repr

def UsageError.about (setting : Setting) (message : Text) : Text :=
  "argument ".toList ++ setting.shown ++ ": ".toList ++ message

def UsageError.message : UsageError → Text
  | inputRequired => "the following arguments are required: input".toList
  | unrecognized arguments => "unrecognized arguments: ".toList ++ [' '].intercalate arguments
  | ambiguous argument candidates =>
    "ambiguous option: ".toList ++ argument ++ " could match ".toList ++
      Text.commaSeparated candidates
  | expectedValue setting => about setting "expected one argument".toList
  | ignoredValue setting value =>
    about setting ("ignored explicit argument ".toList ++ value.quoted)
  | invalidFormat value =>
    about .format ("invalid choice: ".toList ++ value.quoted ++ " (choose from ".toList ++
      Text.commaSeparated (Format.all.map (·.name.quoted)) ++ [')'])

def usage : Text :=
  "usage: lexscan [-h] [-o OUTPUT] [-f \x7btext,json\x7d] [--diagnostics]\n".toList ++
  "               [--config FILE] [--debug]\n".toList ++
  "               input\n".toList

def helpText : Text :=
  usage ++
  "\nLexical scanner for C-family source files\n".toList ++
  "\npositional arguments:\n".toList ++
  "  input                 Input source file ('-' for stdin)\n".toList ++
  "\noptions:\n".toList ++
  "  -h, --help            show this help message and exit\n".toList ++
  "  -o OUTPUT, --output OUTPUT\n".toList ++
  "                        Output file (default: stdout)\n".toList ++
  "  -f \x7btext,json\x7d, --format \x7btext,json\x7d\n".toList ++
  "                        Token listing format (default: text)\n".toList ++
  "  --diagnostics         Print scan diagnostics to stderr\n".toList ++
  "  --config FILE         Config file (default: auto-discover lexscan.toml)\n".toList ++
  "  --debug               Dump tokens and declared names to stderr\n".toList

def UsageError.render (error : UsageError) : Text :=
  usage ++ Program.name ++ ": error: ".toList ++ error.message ++ ['\n']

end LineLexer.CommandLine
