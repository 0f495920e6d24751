import CallLight.Glob.Match
import CallLight.Log.Level
import CallLight.Text.Blank
import CallLight.Text.Quoted

/-!
# Settings

What a settings file may say, what holds when it says nothing, and when settings are refused.
-/

namespace CallLight

/-- The settings of the server and of the command line. -/
structure Config where
  /-- The language id by which the editor knows scripts. -/
  languageId : String
  /-- The patterns of script files, for paths relative to a root. -/
  filePatterns : List String
  /-- The name of the log level. -/
  logLevel : String
  /-- Whether log messages are shown to the editor, too. -/
  clientLog : Bool
deriving DecidableEq, Repr

namespace Config

/-- The settings file that is read when no other is named. -/
def defaultFileName : String := ".scrustls.hcl"

/-- Nothing said. -/
def empty : Config := ⟨"", [], "", false⟩

/-- Fills in what was left empty. -/
def withDefaults (c : Config) : Config :=
  { c with
    languageId := if c.languageId == "" then "scrust" else c.languageId
    filePatterns := if c.filePatterns.isEmpty then ["**/*.scrust"] else c.filePatterns
    logLevel := if c.logLevel == "" then "info" else c.logLevel }

/-- The settings when there is no settings file. -/
def default : Config := empty.withDefaults

/-- Why settings are refused. -/
inductive Invalid where
  | emptyLanguage
  | badPattern (pattern : String)
  | badLevel (cause : Log.Level.ParseError)
deriving DecidableEq, Repr

def Invalid.message (e : Invalid) : String :=
  "invalid config: " ++
    match e with
    | .emptyLanguage => "language_id must not be empty"
    | .badPattern pattern => "bad file pattern " ++ Text.quote (Text.ofString pattern)
    | .badLevel cause => "log_level: " ++ cause.message

/-- The first fault of the settings, if there is one. -/
def check (c : Config) : Option Invalid :=
  if Text.isBlank (Text.ofString c.languageId) then some .emptyLanguage
  else
    match c.filePatterns.find? fun p => !Glob.isValid (Text.ofString p) with
    | some pattern => some (.badPattern pattern)
    | none =>
      match Log.Level.parse c.logLevel with
      | .error cause => some (.badLevel cause)
      | .ok _ => none

/-- The log level; a name that is none counts as `info`. -/
def level (c : Config) : Log.Level :=
  match Log.Level.parse c.logLevel with
  | .ok l => l
  | .error _ => .info

/-- Whether one of the file patterns, read in a dialect, matches a relative path. -/
def accepts (c : Config) (dialect : Glob.Dialect) (path : Text) : Bool :=
  c.filePatterns.any fun p => dialect.isMatch (Text.ofString p) path

/-- Whether a relative path is that of a script file. -/
def isMatch (c : Config) (path : Text) : Bool := c.accepts .standard path

end Config

end CallLight
