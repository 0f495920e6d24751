import Std.Data.HashMap
import CallLight.Text.Table
import CallLight.Text.Normal.Data

/-!
# Canonical composition

Text in which every character that can be composed is composed. A character is first taken apart
into its canonical parts, the marks behind each base character are put in the order of their
combining classes, and then every mark that is not blocked by one of the same class is joined to its
base.
-/

namespace CallLight.Text

/-- Decompositions into one or two parts. -/
def decompositions : Std.HashMap Nat (List Nat) :=
  let add (m : Std.HashMap Nat (List Nat)) (table : String) :=
    (tableEntries table).foldl (fun m entry => match entry with
      | [one, two, whole] => m.insert whole [one, two]
      | [whole, other] => m.insert whole [other]
      | _ => m) m
  add (add (add {} composingTable) dissolvingTable) singletonTable

/-- The composite of two parts. -/
def compositions : Std.HashMap (Nat × Nat) Nat :=
  (tableEntries composingTable).foldl (fun m entry => match entry with
    | [one, two, whole] => m.insert (one, two) whole
    | _ => m) {}

/-- Ranges with their combining classes. -/
def combiningRanges : Array (Nat × Nat × Nat) :=
  ((tableEntries combiningTable).filterMap fun
    | [low, high, level] => some (low, high, level)
    | _ => none).toArray

/-- The combining class of a character, zero for a base character. -/
def combiningClass (code : Nat) : Nat :=
  if code < 0x300 then 0
  else
    match combiningRanges.find? fun (low, high, _) => low ≤ code && code ≤ high with
    | some (_, _, level) => level
    | none => 0

/-- The letters of a Hangul syllable. -/
def hangulParts (code : Nat) : List Nat :=
  let i := code - 0xAC00
  let lead := 0x1100 + i / 588
  let vowel := 0x1161 + i % 588 / 28
  if i % 28 = 0 then [lead, vowel] else [lead, vowel, 0x11A7 + i % 28]

/-- Takes a character apart, and its parts again as far as `depth` says. No character needs more
than four steps. -/
def decompose : Nat → Nat → List Nat
  | 0, code => [code]
  | depth + 1, code =>
    if code < 0xC0 then [code]
    else if 0xAC00 ≤ code && code ≤ 0xD7A3 then hangulParts code
    else
      match decompositions[code]? with
      | some parts => parts.flatMap (decompose depth)
      | none => [code]

/-- Puts a mark behind those that do not come after it by class. The list is in reverse. -/
def insertMark (code level : Nat) : List (Nat × Nat) → List (Nat × Nat)
  | [] => [(code, level)]
  | (other, otherLevel) :: rest =>
    if level ≠ 0 && level < otherLevel then (other, otherLevel) :: insertMark code level rest
    else (code, level) :: (other, otherLevel) :: rest

/-- The characters with their classes, marks in canonical order. -/
def canonicalOrder (codes : List Nat) : List (Nat × Nat) :=
  (codes.foldl (fun done code => insertMark code (combiningClass code) done) []).reverse

/-- The composite of a base and a following character. -/
def compose? (one two : Nat) : Option Nat :=
  if 0x1100 ≤ one && one ≤ 0x1112 && 0x1161 ≤ two && two ≤ 0x1175 then
    some (0xAC00 + ((one - 0x1100) * 21 + (two - 0x1161)) * 28)
  else if 0xAC00 ≤ one && one ≤ 0xD7A3 && (one - 0xAC00) % 28 = 0 && 0x11A8 ≤ two &&
      two ≤ 0x11C2 then
    some (one + (two - 0x11A7))
  else compositions[(one, two)]?

/-- Joins marks to their base. `base` is the last base character, `marks` what stands behind it and
was not joined, in reverse, and `last` the class of the last of these. -/
def joinMarks (base : Option Nat) (marks : List Nat) (last : Nat) : List (Nat × Nat) → List Nat
  | [] => base.toList ++ marks.reverse
  | (code, level) :: rest =>
    match base with
    | none =>
      if level = 0 then marks.reverse ++ joinMarks (some code) [] 0 rest
      else joinMarks none (code :: marks) level rest
    | some b =>
      let blocked := !marks.isEmpty && (last = 0 || level ≤ last)
      match if blocked then none else compose? b code with
      | some whole => joinMarks (some whole) marks last rest
      | none =>
        if level = 0 then b :: (marks.reverse ++ joinMarks (some code) [] 0 rest)
        else joinMarks (some b) (code :: marks) level rest

/-- The composed form of a list of characters. -/
def composeCodes (codes : List Nat) : List Nat :=
  joinMarks none [] 0 (canonicalOrder (codes.flatMap (decompose 4)))

/-- The composed form of a string. Characters below the first combining mark are composed
already. -/
def normalize (s : String) : String :=
  if s.toList.all fun c => c.toNat < 0x300 then s
  else String.ofList ((composeCodes (s.toList.map Char.toNat)).map Char.ofNat)

end CallLight.Text
