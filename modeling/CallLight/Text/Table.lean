/-!
# Tables of code points

Long tables of code points are written as text: entries set apart by blanks and line breaks, each
one a few hexadecimal numbers joined by hyphens.
-/

namespace CallLight.Text

/-- The value of a hexadecimal digit, zero for any other character. -/
def hexValue (c : Char) : Nat :=
  if '0' ≤ c && c ≤ '9' then c.toNat - 48
  else if 'a' ≤ c && c ≤ 'f' then c.toNat - 87
  else if 'A' ≤ c && c ≤ 'F' then c.toNat - 55
  else 0

/-- The value of a hexadecimal number. -/
def hexNumber (cs : List Char) : Nat := cs.foldl (fun n c => n * 16 + hexValue c) 0

/-- Splits a list at every occurrence of a separator. -/
def splitOnChar (sep : Char) : List Char → List (List Char)
  | [] => [[]]
  | c :: cs =>
    if c == sep then [] :: splitOnChar sep cs
    else
      match splitOnChar sep cs with
      | [] => [[c]]
      | piece :: pieces => (c :: piece) :: pieces

/-- The entries of a table. -/
def tableEntries (table : String) : List (List Nat) :=
  let blanks := table.toList.map fun c => if c == '\n' then ' ' else c
  (splitOnChar ' ' blanks).filterMap fun entry =>
    if entry.isEmpty then none else some ((splitOnChar '-' entry).map hexNumber)

/-- The entries of a table of ranges; a single number is a range of one. -/
def tableRanges (table : String) : Array (Nat × Nat) :=
  ((tableEntries table).filterMap fun
    | [one] => some (one, one)
    | [low, high] => some (low, high)
    | _ => none).toArray

/-- Whether a code point is in one of the ranges. -/
def inRanges (ranges : Array (Nat × Nat)) (code : Nat) : Bool :=
  ranges.any fun (low, high) => low ≤ code && code ≤ high

end CallLight.Text
