import CallLight.Command.Invocation
import CallLight.Config.Load

/-!
# Starting the language server
-/

namespace CallLight.Command

/-- What a language server is run with. -/
structure ServePlan where
  config : Config
  /-- The level of its log. -/
  level : Log.Level
  /-- The file for its log; empty for standard error. -/
  logFile : Text
deriving DecidableEq, Repr

/-- Why a language server could not be started, or why it ended. -/
inductive ServeError where
  | loading (error : Config.LoadError)
  | openingLog (error : FileError)
  | running (text : String)
deriving DecidableEq, Repr

def ServeError.message : ServeError → String
  | .loading error => "loading config: " ++ error.message
  | .openingLog error => "opening log file: " ++ error.message
  | .running text => "error running language server: " ++ text

/-- The level of the log. Debugging asks for more than the settings do, never for less. -/
def ServeOptions.level (o : ServeOptions) (config : Config) : Log.Level :=
  if o.debug && Log.Level.debug.code < config.level.code then .debug else config.level

/-- What a language server is run with, by the options of the command. -/
def planServe {m : Type → Type} [Monad m] (fs : FileSystem m) (environment : List String)
    (options : ServeOptions) : m (Except ServeError ServePlan) := do
  match ← Config.load fs environment options.configPath with
  | .error e => pure (.error (.loading e))
  | .ok config => pure (.ok ⟨config, options.level config, options.logFile⟩)

end CallLight.Command
