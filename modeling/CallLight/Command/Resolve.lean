import CallLight.Config.Basic
import CallLight.Files.Walk

/-!
# Files to be looked at

An argument is a file, a directory or a pattern. A directory stands for the files below it that the
settings name, a pattern for the files that match it. All arguments together give one list of paths
in which none comes twice, and a list of what went wrong.
-/

namespace CallLight.Command

/-- What can go wrong with an argument or with a file. -/
inductive Trouble where
  | invalidPattern (argument : Text)
  | noMatch (argument : Text)
  | walking (root : Text) (error : FileError)
  | unreadable (path : Text) (error : FileError)
deriving DecidableEq, Repr

def Trouble.message : Trouble → String
  | .invalidPattern argument => Text.toStringLossy argument ++ ": invalid pattern"
  | .noMatch argument => Text.toStringLossy argument ++ ": no matching files"
  | .walking root error => "walking " ++ Text.toStringLossy root ++ ": " ++ error.message
  | .unreadable path error => Text.toStringLossy path ++ ": reading file: " ++ error.message

/-- Paths, and what went wrong on the way to them. -/
structure Resolution where
  paths : List Text
  troubles : List Trouble
deriving DecidableEq, Repr

/-- Leaves out what equals the item before it. -/
def dropRepeats : List Text → List Text
  | [] => []
  | [path] => [path]
  | path :: next :: rest =>
    if path == next then dropRepeats (next :: rest) else path :: dropRepeats (next :: rest)

/-- The paths in the order of their bytes, each of them once. -/
def sortPaths (paths : List Text) : List Text :=
  dropRepeats (paths.mergeSort fun a b => !Text.lt b a)

variable {m : Type → Type} [Monad m]

/-- The files at and below a directory. -/
def filesBelow (fs : FileSystem m) (accept : Text → Bool) (root : Text) : m Resolution := do
  match ← fs.walk accept root with
  | .ok paths => pure ⟨paths, []⟩
  | .error e => pure ⟨[], [.walking root e]⟩

/-- What a pattern stands for. -/
def expandPattern (dialect : Glob.Dialect) (fs : FileSystem m) (argument : Text) : m Resolution :=
  if !dialect.isValid argument then pure ⟨[], [.invalidPattern argument]⟩
  else do
    let (base, pattern) := dialect.split argument
    let found ← filesBelow fs (dialect.isMatch pattern) base
    pure (if found.paths.isEmpty && found.troubles.isEmpty then ⟨[], [.noMatch argument]⟩
      else found)

/-- What an argument stands for. A file is taken as it is, whatever its name; what leads nowhere is
a pattern. -/
def expand (dialect : Glob.Dialect) (fs : FileSystem m) (config : Config) (argument : Text) :
    m Resolution := do
  match ← fs.isDirectory? argument with
  | some false => pure ⟨[argument], []⟩
  | some true => filesBelow fs (config.accepts dialect) argument
  | none => expandPattern dialect fs argument

/-- What arguments stand for, one after the other. -/
def expandAll (dialect : Glob.Dialect) (fs : FileSystem m) (config : Config) :
    List Text → m Resolution
  | [] => pure ⟨[], []⟩
  | argument :: rest => do
    let first ← expand dialect fs config argument
    let others ← expandAll dialect fs config rest
    pure ⟨first.paths ++ others.paths, first.troubles ++ others.troubles⟩

/-- The paths that arguments stand for. No arguments stand for the files below the working
directory. -/
def resolve (dialect : Glob.Dialect) (fs : FileSystem m) (config : Config)
    (arguments : List Text) : m Resolution := do
  let found ← if arguments.isEmpty then filesBelow fs (config.accepts dialect) Path.here
    else expandAll dialect fs config arguments
  pure { found with paths := sortPaths found.paths }

end CallLight.Command
