import CallLight.Command.Invocation

/-!
# Help texts
-/

namespace CallLight.Command

def generalHelp : String :=
  "A language server that highlights procedure calls in scrust files

Usage:
  scrustls [command]

Available Commands:
  completion  Generate the autocompletion script for the specified shell
  help        Help about any command
  serve-lsp   start the language server on stdin/stdout
  tokens      print the procedure call tokens of scrust files

Flags:
  -h, --help      help for scrustls
  -v, --version   version for scrustls

Use \"scrustls [command] --help\" for more information about a command.
"

def rawVersionHelp : String :=
  "Usage:
  scrustls raw-version [flags]

Flags:
  -h, --help   help for raw-version
"

def serveHelp : String :=
  "start the language server on stdin/stdout

Usage:
  scrustls serve-lsp [flags]

Flags:
      --config string     path to the config file (default \".scrustls.hcl\")
      --debug             enable debug logging
  -h, --help              help for serve-lsp
      --log-file string   append logs to this file instead of stderr
"

def tokensHelp : String :=
  "Classifies each file the way the language server does and prints one row per token.
Arguments are files, directories or doublestar globs; with none, the config's
file_patterns are matched under the current directory.

Usage:
  scrustls tokens [file|glob]... [flags]

Flags:
      --config string   path to the config file (default \".scrustls.hcl\")
  -h, --help            help for tokens
      --json            print JSON instead of a table
      --no-color        disable colored output
"

/-- The help on a command, or on the program. -/
def helpText : Option Name → String
  | some .rawVersion => rawVersionHelp
  | some .serve => serveHelp
  | some .tokens => tokensHelp
  | _ => generalHelp

end CallLight.Command
