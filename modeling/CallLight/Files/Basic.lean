import CallLight.Text.Basic

/-!
# File systems

What the program asks of a file system: what a path leads to, which names a directory holds, and
what a file contains. The questions are answered in a monad, so that the same program runs on the
files of a computer and on a file system that is a mere value.
-/

namespace CallLight

/-- Why a file operation fails. -/
inductive FileFault where
  | missing
  | notDirectory
  | isDirectory
  | tooManyLinks
  | nameTooLong
  | denied
  | other (text : String)
deriving DecidableEq, Repr

def FileFault.message : FileFault → String
  | .missing => "no such file or directory"
  | .notDirectory => "not a directory"
  | .isDirectory => "is a directory"
  | .tooManyLinks => "too many levels of symbolic links"
  | .nameTooLong => "file name too long"
  | .denied => "permission denied"
  | .other text => text

/-- The operations that can fail. -/
inductive FileOperation where
  | opening | reading | inspecting
deriving DecidableEq, Repr

def FileOperation.name : FileOperation → String
  | .opening => "open"
  | .reading => "read"
  | .inspecting => "lstat"

/-- A file operation that failed. -/
structure FileError where
  operation : FileOperation
  path : Text
  fault : FileFault
deriving DecidableEq, Repr

def FileError.message (e : FileError) : String :=
  e.operation.name ++ " " ++ Text.toStringLossy e.path ++ ": " ++ e.fault.message

/-- What stands at a path. -/
inductive FileKind where
  | file | directory | link
deriving DecidableEq, Repr

/-- A file system. -/
structure FileSystem (m : Type → Type) where
  /-- Whether a path leads to a directory, links followed; nothing if it leads nowhere. -/
  isDirectory? : Text → m (Option Bool)
  /-- What stands at a path, a link at its end not followed. -/
  inspect : Text → m (Except FileFault FileKind)
  /-- The names in a directory, in any order. -/
  names : Text → m (Except FileFault (List Text))
  /-- The content of a file. -/
  read : Text → m (Except FileError Text)

end CallLight
