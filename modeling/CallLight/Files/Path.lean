import CallLight.Text.Basic

/-!
# Paths

A path in its shortest form: without empty parts and `.`, and with `..` only where nothing can be
taken back.
-/

namespace CallLight

/-- A path in its shortest form. -/
structure Path where
  rooted : Bool
  parts : List Text
deriving DecidableEq, Repr

namespace Path

def slash : UInt8 := 0x2F

/-- The part that names the directory it stands in. -/
def here : Text := [0x2E]

/-- The part that names the directory above. -/
def above : Text := [0x2E, 0x2E]

/-- The pieces between the slashes of a text; there is one more than there are slashes. -/
def pieces : Text → List Text
  | [] => [[]]
  | b :: rest =>
    if b == slash then [] :: pieces rest
    else match pieces rest with
      | [] => [[b]]
      | piece :: others => (b :: piece) :: others

/-- Adds a part at the end. -/
def push (p : Path) (part : Text) : Path :=
  if part == [] || part == here then p
  else if part == above then
    match p.parts.getLast? with
    | none => if p.rooted then p else { p with parts := [above] }
    | some last =>
      if last == above then { p with parts := p.parts ++ [above] }
      else { p with parts := p.parts.dropLast }
  else { p with parts := p.parts ++ [part] }

/-- The path of a text. -/
def ofText (t : Text) : Path := (pieces t).foldl push ⟨t.head? == some slash, []⟩

/-- Parts with slashes between them. -/
def joinParts : List Text → Text
  | [] => []
  | [part] => part
  | part :: rest => part ++ slash :: joinParts rest

/-- The text of a path. -/
def toText (p : Path) : Text :=
  if p.rooted then slash :: joinParts p.parts
  else if p.parts.isEmpty then here
  else joinParts p.parts

/-- The path of a name in a directory. -/
def child (directory name : Text) : Text := ((ofText directory).push name).toText

/-- How to get from a directory to a path at or below it. -/
def below (directory path : Text) : Text :=
  toText ⟨false, (ofText path).parts.drop (ofText directory).parts.length⟩

end Path

end CallLight
