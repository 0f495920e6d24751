import CallLight.Config.Yaml.Scalar

/-!
# Tags and directives

The words of a YAML stream that say what follows: tags, and the lines in front of a document.
-/

namespace CallLight.Yaml

/-- A directive in front of a document. -/
inductive Directive where
  | version (major minor : Nat)
  | tag (handle lead : String)
deriving Repr

/-- Whether a character may stand in a tag as it is. -/
def isTagChar (c : Char) : Bool :=
  isWordChar c || c == ';' || c == '/' || c == '?' || c == ':' || c == '@' || c == '&' ||
    c == '=' ||
    c == '+' || c == '$' || c == ',' || c == '.' || c == '!' || c == '~' || c == '*' || c == '\'' ||
    c == '(' || c == ')' || c == '[' || c == ']'

/-- The byte of a percent escape. -/
def percentByte? : List Char → Option UInt8
  | '%' :: a :: b :: _ =>
    if isHexDigit a && isHexDigit b then some (UInt8.ofNat (Text.hexNumber [a, b])) else none
  | _ => none

/-- The bytes of a number of percent escapes. -/
def percentBytes : Nat → List Char → Option Text
  | 0, _ => some []
  | n + 1, cs => do return (← percentByte? cs) :: (← percentBytes n (cs.drop 3))

/-- The number of bytes of the character that starts with a byte. -/
def characterWidth? (b : UInt8) : Option Nat :=
  if b < 0x80 then some 1
  else if b &&& 0xE0 == 0xC0 then some 2
  else if b &&& 0xF0 == 0xE0 then some 3
  else if b &&& 0xF8 == 0xF0 then some 4
  else none

/-- Reads a character written in percent escapes. -/
def percentChar? (c : Cursor) : Option (List Char × Cursor) := do
  let width ← characterWidth? (← percentByte? c.rest)
  let bytes ← percentBytes width c.rest
  if (bytes.drop 1).all Text.isTail then some (Text.chars bytes, c.skipN (3 * width)) else none

/-- The characters of a tag. -/
def tagChars : (fuel : Nat) → Cursor → Option (List Char × Cursor)
  | 0, _ => none
  | fuel + 1, c =>
    if c.isAt '%' then
      (percentChar? c).bind fun (ds, c) => (tagChars fuel c).map fun (cs, c) => (ds ++ cs, c)
    else if c.test 0 isTagChar then
      (tagChars fuel c.skip).map fun (cs, c') => (c.rest.take 1 ++ cs, c')
    else some ([], c)

/-- The rest of a tag, which may not be empty. -/
def tagRest (c : Cursor) : Option (List Char × Cursor) :=
  (tagChars (c.rest.length + 1) c).bind fun (cs, c') =>
    if c'.index == c.index then none else some (cs, c')

/-- A tag: the handle, empty if the tag is written out in full, and what follows the handle. -/
def scanTag (c : Cursor) : Option (String × String × Cursor) := do
  let (handle, rest, c) ← if c.test 1 (· == '<') then do
      let (uri, c) ← tagRest (c.skipN 2)
      if c.isAt '>' then some ("", String.ofList uri, c.skip) else none
    else
      let word := c.skip.rest.takeWhile isWordChar
      let after := c.skip.skipN word.length
      if after.isAt '!' then do
        let (uri, c) ← tagRest after.skip
        some (String.ofList ('!' :: word ++ ['!']), String.ofList uri, c)
      else do
        let (uri, c) ← tagChars (after.rest.length + 1) after
        let all := word ++ uri
        some (if all.isEmpty then ("", "!", c) else ("!", String.ofList all, c))
  if c.blankAhead 0 then return (handle, rest, c) else none

/-- A number of a version. -/
def versionNumber (c : Cursor) : Option (Nat × Cursor) :=
  let digits := c.rest.takeWhile Char.isDigit
  if digits.isEmpty || 2 < digits.length then none
  else some (digits.foldl (fun n d => n * 10 + (d.toNat - 48)) 0, c.skipN digits.length)

/-- The value of a version directive. -/
def versionDirective (c : Cursor) : Option (Directive × Cursor) := do
  let (major, c) ← versionNumber c.skipBlanks
  if !c.isAt '.' then none
  else
    let (minor, c) ← versionNumber c.skip
    return (.version major minor, c)

/-- The value of a tag directive. -/
def tagDirective (c : Cursor) : Option (Directive × Cursor) := do
  let c := c.skipBlanks
  if !c.isAt '!' then none
  else
    let word := c.skip.rest.takeWhile isWordChar
    let c := c.skip.skipN word.length
    if !c.isAt '!' && !word.isEmpty then none
    else
      let (handle, c) := if c.isAt '!' then ('!' :: word ++ ['!'], c.skip) else ('!' :: word, c)
      if !c.atBlank then none
      else
        let (lead, c) ← tagRest c.skipBlanks
        if c.blankAhead 0 then return (.tag (String.ofList handle) (String.ofList lead), c)
        else none

/-- A directive; the cursor is at the percent sign. It takes the whole line. -/
def scanDirective (c : Cursor) : Option (Directive × Cursor) := do
  let name := c.skip.rest.takeWhile isWordChar
  let c := c.skip.skipN name.length
  if name.isEmpty || !c.blankAhead 0 then none
  else
    let (directive, c) ← match String.ofList name with
      | "YAML" => versionDirective c
      | "TAG" => tagDirective c
      | _ => none
    let c := c.skipBlanks
    let c := if c.isAt '#' then c.skipToBreak else c
    if c.lineOver then return (directive, c.skipLine) else none

end CallLight.Yaml
