import CallLight.Text.Basic

/-!
# Positions in a text

Editors speak of lines and UTF-16 columns, files of byte offsets. A `LineIndex` converts between the
two. A line ends at LF, CR LF or a lone CR, and the break belongs to the line it ends.
-/

namespace CallLight

/-- Wraps an integer into the signed 64-bit range. -/
def wrap64 (n : Int) : Int := n.bmod UInt64.size

/-- A position as editors count: line and UTF-16 column, both from zero. -/
structure Place where
  line : Int
  character : Int
deriving DecidableEq, Repr

namespace Place

/-- Document order, strict. -/
def before (p q : Place) : Bool :=
  if p.line ≠ q.line then p.line < q.line else p.character < q.character

end Place

/-- A piece of a text: where it starts, in bytes, and what it says. -/
structure Span where
  offset : Int
  text : Text
deriving DecidableEq, Repr

namespace Span

/-- The offset just after the span. -/
def stop (s : Span) : Int := wrap64 (s.offset + s.text.length)

/-- Whether two spans share text. An empty span overlaps what it lies in or touches. -/
def overlaps (s other : Span) : Bool :=
  if s.text.isEmpty then other.offset ≤ s.offset && s.offset ≤ other.stop
  else if other.text.isEmpty then s.offset ≤ other.offset && other.offset ≤ s.stop
  else other.offset < s.stop && s.offset < other.stop

end Span

/-- A line of a text, without its line break. -/
structure Line where
  start : Nat
  content : Text
deriving DecidableEq, Repr

/-- Cuts off the first line: its content and, unless the text ends with it, the width of its line
break and the text after that. -/
def splitLine : Text → Text × Option (Nat × Text)
  | [] => ([], none)
  | b :: rest =>
    if b = 10 then ([], some (1, rest))
    else if b = 13 then
      match rest with
      | 10 :: rest' => ([], some (2, rest'))
      | _ => ([], some (1, rest))
    else
      let (content, next) := splitLine rest
      (b :: content, next)

theorem length_lt_of_splitLine {t content rest : Text} {w : Nat}
    (h : splitLine t = (content, some (w, rest))) : rest.length < t.length := by
  induction t generalizing content with
  | nil => simp [splitLine] at h
  | cons b t ih =>
    unfold splitLine at h
    split at h
    · simp only [Prod.mk.injEq, Option.some.injEq] at h
      obtain ⟨_, _, rfl⟩ := h
      simp
    · split at h
      · split at h
        · simp only [Prod.mk.injEq, Option.some.injEq] at h
          obtain ⟨_, _, rfl⟩ := h
          simp only [List.length_cons]
          omega
        · simp only [Prod.mk.injEq, Option.some.injEq] at h
          obtain ⟨_, _, rfl⟩ := h
          simp
      · simp only [Prod.mk.injEq] at h
        have := @ih (splitLine t).1 (by rw [← h.2])
        simp only [List.length_cons]
        omega

/-- The lines of a text whose first byte has offset `start`. There is at least one, and the last may
be empty. -/
def linesFrom (start : Nat) (t : Text) : List Line :=
  match _h : splitLine t with
  | (content, none) => [⟨start, content⟩]
  | (content, some (w, rest)) => ⟨start, content⟩ :: linesFrom (start + content.length + w) rest
termination_by t.length
decreasing_by exact length_lt_of_splitLine _h

/-- A text cut into lines. -/
structure LineIndex where
  size : Nat
  lines : List Line

namespace Text

/-- The offset at or before `k` that is not inside a character. -/
def boundary (t : Text) : Nat → Nat
  | 0 => 0
  | k + 1 =>
    match t[k + 1]? with
    | some b => if isTail b then boundary t k else k + 1
    | none => k + 1

end Text

/-- The number of bytes to walk until `character` UTF-16 units are passed or the characters run out.
A character is never split. -/
def advance : List Rune → Int → Nat
  | [], _ => 0
  | r :: rs, character => if 0 < character then r.width + advance rs (character - r.units) else 0

namespace Line

/-- The UTF-16 column of the byte `offset` of the text, for a line that starts at or before it.
Offsets in the line break count as the end of the line. -/
def column (l : Line) (offset : Nat) : Nat :=
  let k := min (offset - l.start) l.content.length
  Text.units (l.content.take (l.content.boundary k))

/-- The byte offset of a column; columns past the end count as the end of the line. -/
def offsetOf (l : Line) (character : Int) : Nat :=
  l.start + advance l.content.runes character

end Line

namespace LineIndex

/-- Cuts a text into lines. -/
def ofText (t : Text) : LineIndex := ⟨t.length, linesFrom 0 t⟩

/-- The place of a byte offset. Offsets outside the text count as its nearer end. -/
def placeAt (ix : LineIndex) (offset : Int) : Place :=
  let offset := min offset.toNat ix.size
  let line := (ix.lines.takeWhile (·.start ≤ offset)).length - 1
  match ix.lines[line]? with
  | some l => ⟨line, l.column offset⟩
  | none => ⟨line, 0⟩

/-- The byte offset of a place. Lines above the text count as its start, lines below it as its
end. -/
def offsetAt (ix : LineIndex) (p : Place) : Nat :=
  if p.line < 0 then 0
  else
    match ix.lines[p.line.toNat]? with
    | some l => l.offsetOf p.character
    | none => ix.size

/-- The places where a span starts and stops. -/
def rangeOf (ix : LineIndex) (s : Span) : Place × Place :=
  (ix.placeAt s.offset, ix.placeAt s.stop)

end LineIndex

end CallLight
