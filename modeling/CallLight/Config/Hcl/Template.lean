import CallLight.Config.Hcl.Syntax
import CallLight.Text.Blank

/-!
# Templates

A string is read as a flat sequence of parts. This module removes the common indentation, joins
literals that stand side by side, and builds conditions and loops out of their opening and closing
parts.
-/

namespace CallLight.Hcl

/-- A part of a template. -/
inductive Part where
  | literal (text : String)
  | interpolation (inner : Expr)
  | ifStart (condition : Expr)
  | ifElse
  | ifEnd
  | forStart (key : Option String) (value : String) (source : Expr)
  | forEnd

namespace Part

/-- Text without the white space at the front. -/
def trimLeft (s : String) : String :=
  String.ofList (s.toList.dropWhile fun c => Text.isWhiteSpace c.toNat)

/-- Text without the white space at the end. -/
def trimRight (s : String) : String :=
  String.ofList ((s.toList.reverse.dropWhile fun c => Text.isWhiteSpace c.toNat).reverse)

/-- Cuts the white space at the end of the last part. The parts are in reverse. -/
def trimLast : List Part → List Part
  | .literal s :: rest => .literal (trimRight s) :: rest
  | parts => parts

def endsLine (s : String) : Bool := s.toList.getLast? == some '\n'

/-- The number of blanks in front of a line, if the line counts. Lines of blanks alone do not. -/
def indentation? : Part → Option Nat
  | .literal s =>
    let rest := s.toList.dropWhile fun c => Text.isWhiteSpace c.toNat
    if rest.isEmpty && endsLine s then none else some (s.toList.length - rest.length)
  | _ => some 0

/-- The indentations of the lines that count. -/
def indentations (lineStart : Bool) : List Part → List Nat
  | [] => []
  | part :: rest =>
    let after := match part with
      | .literal s => endsLine s
      | _ => false
    (if lineStart then (indentation? part).toList else []) ++ indentations after rest

/-- Removes `n` characters from the front of every line that counts. -/
def dropIndentation (n : Nat) (lineStart : Bool) : List Part → List Part
  | [] => []
  | .literal s :: rest =>
    let s' := if lineStart && (indentation? (.literal s)).isSome then
      String.ofList (s.toList.drop n) else s
    .literal s' :: dropIndentation n (endsLine s) rest
  | part :: rest => part :: dropIndentation n false rest

/-- Removes the indentation that all lines have in common. -/
def unindent (parts : List Part) : List Part :=
  match (indentations true parts).min? with
  | none => parts
  | some n => dropIndentation n true parts

/-- Joins literals that stand side by side. -/
def meld : List Part → List Part
  | [] => []
  | .literal a :: rest =>
    match meld rest with
    | .literal b :: rest => .literal (a ++ b) :: rest
    | rest => .literal a :: rest
  | part :: rest => part :: meld rest

/-- A template of parts; without any it is the empty text. -/
def toTemplate (parts : List Expr) : Expr :=
  .template (if parts.isEmpty then [.literal (.string "")] else parts)

/-- What ends a sequence of parts. -/
inductive Ending where
  | whole | ifElse | ifEnd | forEnd
deriving DecidableEq

/-- Reads parts up to one that ends them, or to the end of the template. -/
def tree : (fuel : Nat) → List Part → Option (List Expr × Ending × List Part)
  | 0, _ => none
  | _, [] => some ([], .whole, [])
  | fuel + 1, part :: rest =>
    let more (e : Expr) (rest : List Part) := do
      let (es, ending, rest) ← tree fuel rest
      return (e :: es, ending, rest)
    match part with
    | .literal s => more (.literal (.ofString s)) rest
    | .interpolation e => more e rest
    | .ifElse => some ([], .ifElse, rest)
    | .ifEnd => some ([], .ifEnd, rest)
    | .forEnd => some ([], .forEnd, rest)
    | .ifStart condition => do
      let (onTrue, ending, rest) ← tree fuel rest
      match ending with
      | .ifEnd => more (.conditional condition (toTemplate onTrue) (toTemplate [])) rest
      | .ifElse =>
        let (onFalse, ending, rest) ← tree fuel rest
        if ending = .ifEnd then
          more (.conditional condition (toTemplate onTrue) (toTemplate onFalse)) rest
        else none
      | _ => none
    | .forStart key value source => do
      let (body, ending, rest) ← tree fuel rest
      if ending = .forEnd then
        more (.join (.forTuple key value source (toTemplate body) (.literal (.bool true)))) rest
      else none

/-- The expression of a string. A string that is one interpolation is the value inside of it, of
whatever type. -/
def toExpr (indented : Bool) (parts : List Part) : Option Expr :=
  let parts := meld (if indented then unindent parts else parts)
  match parts with
  | [.interpolation e] => some (.paren e)
  | _ => do
    let (es, ending, _) ← tree (parts.length + 1) parts
    if ending = .whole then some (toTemplate es) else none

end Part

end CallLight.Hcl
