import CallLight.Position

/-!
# Changes of a document

An editor sends what it changed: a new text for the whole document or for the part between two
positions. Positions count UTF-16 units.
-/

namespace CallLight

/-- A position in a message. -/
structure Position where
  line : UInt32
  character : UInt32
deriving DecidableEq, Repr

namespace Position

def place (p : Position) : Place := ⟨p.line.toNat, p.character.toNat⟩

/-- Line and character, separated by a colon. -/
def render (p : Position) : String := s!"{p.line.toNat}:{p.character.toNat}"

end Position

/-- The part of a document between two positions. -/
structure Range where
  start : Position
  stop : Position
deriving DecidableEq, Repr

namespace Range

/-- The byte offsets of the two ends in a text. -/
def offsets (r : Range) (t : Text) : Nat × Nat :=
  let ix := LineIndex.ofText t
  (ix.offsetAt r.start.place, ix.offsetAt r.stop.place)

end Range

/-- A change: new text, for the whole document when there is no range. -/
structure Change where
  range : Option Range
  text : Text
deriving DecidableEq, Repr

/-- Why a change is refused: its range ends before it starts. -/
structure InvertedRange where
  range : Range
deriving DecidableEq, Repr

def InvertedRange.message (e : InvertedRange) : String :=
  "invalid change range: end " ++ e.range.stop.render ++ " is before start " ++
    e.range.start.render

/-- The text after a change. -/
def Change.apply (c : Change) (t : Text) : Except InvertedRange Text :=
  match c.range with
  | none => .ok c.text
  | some r =>
    let (start, stop) := r.offsets t
    if stop < start then .error ⟨r⟩ else .ok (t.take start ++ c.text ++ t.drop stop)

/-- Applies changes in turn. A refused change is reported with its index, counted from `i`. -/
def applyAll (i : Nat) : List Change → Text → Except (Nat × InvertedRange) Text
  | [], t => .ok t
  | c :: cs, t =>
    match c.apply t with
    | .error e => .error (i, e)
    | .ok t => applyAll (i + 1) cs t

end CallLight
