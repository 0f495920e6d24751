import CallLight.Files.Basic
import CallLight.Files.Path

/-!
# File systems in memory

A file system as a value: the entries below the working directory by the names that lead to them.
What is above the working directory or away from it is not known.
-/

namespace CallLight

/-- What stands in a tree. -/
inductive FileTree.Entry where
  | file (data : Text)
  | directory
  | link (target : Text)
deriving DecidableEq, Repr

/-- The entries of a file system, each with the names that lead to it from the working directory. -/
structure FileTree where
  entries : List (List Text × FileTree.Entry)
deriving Repr

namespace FileTree

def Entry.kind : Entry → FileKind
  | .file _ => .file
  | .directory => .directory
  | .link _ => .link

def empty : FileTree := ⟨[]⟩

/-- The entry at a place. The working directory itself is one. -/
def entry? (t : FileTree) (place : List Text) : Option Entry :=
  if place.isEmpty then some .directory else (t.entries.find? (·.1 == place)).map (·.2)

/-- Puts an entry at a place, instead of what was there. -/
def put (t : FileTree) (place : List Text) (e : Entry) : FileTree :=
  ⟨t.entries.filter (·.1 != place) ++ [(place, e)]⟩

/-! ## Following paths -/

/-- Where following a path has led. -/
inductive Stop where
  /-- An entry. -/
  | found (place : List Text) (entry : Entry)
  /-- A place in a directory where there is none. -/
  | absent (place : List Text)
  /-- A directory outside of the tree. -/
  | outside
  /-- A link: the path goes on by other parts from a directory. -/
  | jump (here : List Text) (todo : List Text)

/-- Follows the parts of a path from a directory, up to the first link that has to be followed. -/
def descend (t : FileTree) (follow : Bool) (here : List Text) : List Text → Except FileFault Stop
  | [] => .ok (.found here .directory)
  | part :: rest =>
    if part == [] || part == Path.here then descend t follow here rest
    else if part == Path.above then
      if here.isEmpty then
        if rest.all fun p => p == [] || p == Path.here || p == Path.above then .ok .outside
        else .error .missing
      else descend t follow here.dropLast rest
    else if 255 < part.length then .error .nameTooLong
    else
      let place := here ++ [part]
      match t.entry? place with
      | none => if rest.isEmpty then .ok (.absent place) else .error .missing
      | some .directory => descend t follow place rest
      | some (.file data) =>
        if rest.isEmpty then .ok (.found place (.file data)) else .error .notDirectory
      | some (.link target) =>
        if rest.isEmpty && !follow then .ok (.found place (.link target))
        else if target.head? == some Path.slash then .error .missing
        else .ok (.jump here (Path.pieces target ++ rest))

/-- Follows a path through that many links. -/
def follow (t : FileTree) (last : Bool) :
    (links : Nat) → (here todo : List Text) → Except FileFault Stop
  | 0, _, _ => .error .tooManyLinks
  | links + 1, here, todo =>
    match descend t last here todo with
    | .ok (.jump here todo) => follow t last links here todo
    | stop => stop

/-- Where a path leads; a link at its end is followed if `last` says so. -/
def locate (t : FileTree) (last : Bool) (path : Text) : Except FileFault Stop :=
  if path.contains 0 then .error (.other "invalid argument")
  else if path.isEmpty || path.head? == some Path.slash then .error .missing
  else if 4096 ≤ path.length then .error .nameTooLong
  else follow t last 41 [] (Path.pieces path)

/-- The entry a path leads to. -/
def lookup (t : FileTree) (last : Bool) (path : Text) : Except FileFault (List Text × Entry) :=
  match t.locate last path with
  | .error fault => .error fault
  | .ok (.found place e) => .ok (place, e)
  | .ok (.absent _) => .error .missing
  | .ok .outside => .ok ([Path.above], .directory)
  | .ok (.jump _ _) => .error .tooManyLinks

/-! ## Reading -/

/-- The names in the directory at a place. -/
def namesAt (t : FileTree) (place : List Text) : List Text :=
  t.entries.filterMap fun (p, _) => if p.dropLast == place then p.getLast? else none

/-- The content of the file a path leads to. -/
def read (t : FileTree) (path : Text) : Except FileError Text :=
  match t.lookup true path with
  | .error fault => .error ⟨.opening, path, fault⟩
  | .ok (_, .file data) => .ok data
  | .ok _ => .error ⟨.reading, path, .isDirectory⟩

/-- The tree as a file system. -/
def fileSystem (t : FileTree) : FileSystem Id where
  isDirectory? path :=
    match t.lookup true path with
    | .error _ => none
    | .ok (_, e) => some (e.kind == .directory)
  inspect path := (t.lookup false path).map (·.2.kind)
  names path := (t.lookup true path).map fun (place, _) => t.namesAt place
  read path := t.read path

/-! ## Writing -/

/-- Makes a directory of that name in a directory, unless there is one. The result is where it
is. -/
def enter (t : FileTree) (here : List Text) (part : Text) : FileTree × List Text :=
  match t.follow true 41 here [part] with
  | .ok (.found place _) => (t, place)
  | .ok (.absent place) => (t.put place .directory, place)
  | _ => (t, here)

/-- Adds an entry, with the directories that lead to it. -/
def add (t : FileTree) (path : Text) (e : Entry) : FileTree :=
  let parts := (Path.ofText path).parts
  match parts.getLast? with
  | none => t
  | some last =>
    let (t, here) := parts.dropLast.foldl (fun (t, here) part => t.enter here part) (t, [])
    t.put (here ++ [last]) e

/-- Where a file can be written to at its end, and what it holds now. A file that is not there can
be made if its directory is there. A path that ends in a slash is one of a directory. -/
def openEnd (t : FileTree) (path : Text) : Except FileError (List Text × Text) :=
  let named := (path.reverse.dropWhile (· == Path.slash)).reverse
  match t.locate (named == path) named with
  | .error fault => .error ⟨.opening, path, fault⟩
  | .ok (.found place (.file data)) =>
    if named == path then .ok (place, data) else .error ⟨.opening, path, .isDirectory⟩
  | .ok (.absent place) =>
    if named == path then .ok (place, []) else .error ⟨.opening, path, .isDirectory⟩
  | .ok _ => .error ⟨.opening, path, .isDirectory⟩

/-- Writes at the end of a file. -/
def append (t : FileTree) (path data : Text) : Except FileError FileTree :=
  (t.openEnd path).map fun (place, old) => t.put place (.file (old ++ data))

end FileTree

end CallLight
