import CallLight.Command.Report
import CallLight.Command.Resolve
import CallLight.Config.Load

/-!
# Printing tokens

Every file is classified the way the language server does it. A file that cannot be read does not
keep the others from being printed. If the work is called off nothing is printed.
-/

namespace CallLight.Command

/-- Why printing tokens failed. -/
inductive TokensError where
  | loading (error : Config.LoadError)
  | canceled (path : Text) (error : Script.Canceled)
  | failed (troubles : List Trouble)
deriving DecidableEq, Repr

def TokensError.message : TokensError → String
  | .loading error => "loading config: " ++ error.message
  | .canceled path error => Text.toStringLossy path ++ ": " ++ error.generating
  | .failed troubles =>
    toString troubles.length ++ " file(s) failed: " ++
      JsonValue.joinWith "; " (troubles.map (·.message))

/-- What is printed, and what went wrong. -/
structure TokensOutcome where
  output : Text
  error : Option TokensError
deriving DecidableEq, Repr

/-- How reports are printed. -/
inductive OutputMode where
  | json
  | table (color : Bool)
deriving DecidableEq, Repr

def OutputMode.render : OutputMode → List FileReport → Text
  | .json => jsonOutput
  | .table color => tableOutput color

variable {m : Type → Type} [Monad m]

/-- The reports on files, and the files that cannot be read. -/
def classifyAll (fs : FileSystem m) :
    List Text → Cancellation → m (Except (Text × Script.Canceled) (List FileReport × List Trouble))
  | [], _ => pure (.ok ([], []))
  | path :: rest, c => do
    match ← fs.read path with
    | .error e =>
      match ← classifyAll fs rest c with
      | .error stop => pure (.error stop)
      | .ok (reports, troubles) => pure (.ok (reports, .unreadable path e :: troubles))
    | .ok content =>
      match Script.tokens content c with
      | .error stop => pure (.error (path, stop))
      | .ok (tokens, c) =>
        match ← classifyAll fs rest c with
        | .error stop => pure (.error stop)
        | .ok (reports, troubles) => pure (.ok (.ofTokens path content tokens :: reports, troubles))

/-- Prints the tokens of the files that arguments stand for, with settings that have been loaded. -/
def printTokens (fs : FileSystem m) (config : Config) (mode : OutputMode) (arguments : List Text)
    (c : Cancellation) : m TokensOutcome := do
  let found ← resolve .standard fs config arguments
  match ← classifyAll fs found.paths c with
  | .error (path, stop) => pure ⟨[], some (.canceled path stop)⟩
  | .ok (reports, troubles) =>
    let all := found.troubles ++ troubles
    pure ⟨mode.render reports, if all.isEmpty then none else some (.failed all)⟩

/-- Loads the settings, and prints the tokens of the files that arguments stand for. -/
def runTokens (fs : FileSystem m) (environment : List String) (configPath : Text)
    (mode : OutputMode) (arguments : List Text) (c : Cancellation) : m TokensOutcome := do
  match ← Config.load fs environment configPath with
  | .error e => pure ⟨[], some (.loading e)⟩
  | .ok config => printTokens fs config mode arguments c

end CallLight.Command
