import CallLight.Files.Basic
import CallLight.Files.Path

/-!
# Files below a directory

All files at and below a path that a test accepts, directory by directory in the order of the names.
Links are not followed and count as files. The first thing that cannot be inspected ends the walk.
-/

namespace CallLight.FileSystem

variable {m : Type → Type} [Monad m]

/-- Puts together what is found at each of some paths, up to the first failure. -/
def collect (find : Text → m (Except FileError (List Text))) :
    List Text → m (Except FileError (List Text))
  | [] => pure (.ok [])
  | path :: rest => do
    match ← find path with
    | .error e => pure (.error e)
    | .ok found =>
      match ← collect find rest with
      | .error e => pure (.error e)
      | .ok others => pure (.ok (found ++ others))

/-- The files at and below a path, no deeper than `depth` directories. -/
def visit (fs : FileSystem m) (accept : Text → Bool) :
    (depth : Nat) → Text → m (Except FileError (List Text))
  | 0, path => pure (.error ⟨.inspecting, path, .nameTooLong⟩)
  | depth + 1, path => do
    match ← fs.inspect path with
    | .error fault => pure (.error ⟨.inspecting, path, fault⟩)
    | .ok .directory =>
      match ← fs.names path with
      | .error fault => pure (.error ⟨.opening, path, fault⟩)
      | .ok names =>
        let sorted := names.mergeSort fun a b => !Text.lt b a
        collect (visit fs accept depth) (sorted.map (Path.child path))
    | .ok _ => pure (.ok (if accept path then [path] else []))

/-- Directories are not nested deeper than that: paths are shorter than 4096 bytes. -/
def maxDepth : Nat := 4096

/-- The files at and below `root` whose way from there is accepted. -/
def walk (fs : FileSystem m) (accept : Text → Bool) (root : Text) :
    m (Except FileError (List Text)) :=
  visit fs (fun path => accept (Path.below root path)) maxDepth root

end CallLight.FileSystem
