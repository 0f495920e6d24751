import CallLight.Config.Parse
import CallLight.Files.Basic

/-!
# Loading settings

Settings are read from a file. Without the file everything is at its default.
-/

namespace CallLight.Config

/-- Why settings cannot be loaded. -/
inductive LoadError where
  | unreadable (error : FileError)
  | refused (refusal : Refusal)
deriving DecidableEq, Repr

def LoadError.message : LoadError → String
  | .unreadable error => "reading config file: " ++ error.message
  | .refused refusal => refusal.message

/-- The settings at a path. -/
def load {m : Type → Type} [Monad m] (fs : FileSystem m) (environment : List String) (path : Text) :
    m (Except LoadError Config) := do
  match ← fs.read path with
  | .ok data =>
    match parse path data environment with
    | .ok c => pure (.ok c)
    | .error refusal => pure (.error (.refused refusal))
  | .error e => pure (if e.fault == .missing then .ok .default else .error (.unreadable e))

end CallLight.Config
