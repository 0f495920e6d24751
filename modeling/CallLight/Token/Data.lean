import CallLight.Token.Basic

/-!
# Token data

Tokens travel as a flat list of numbers, five to a token. Line and character count from the token
before: the line always, the character only on the same line.
-/

namespace CallLight

/-- A token as the editor sees it. -/
structure Entry where
  line : UInt32
  character : UInt32
  length : UInt32
  type : UInt32
  modifiers : UInt32
deriving DecidableEq, Repr

namespace Entry

/-- Document order: line, then character. -/
def notAfter (a b : Entry) : Bool :=
  a.line < b.line || (a.line == b.line && a.character ≤ b.character)

theorem notAfter_iff_toNat {a b : Entry} : a.notAfter b = true ↔
    a.line.toNat < b.line.toNat ∨
      a.line.toNat = b.line.toNat ∧ a.character.toNat ≤ b.character.toNat := by
  simp only [notAfter, Bool.or_eq_true, Bool.and_eq_true, decide_eq_true_eq, beq_iff_eq,
    UInt32.lt_iff_toNat_lt, UInt32.le_iff_toNat_le, ← UInt32.toNat_inj]

theorem notAfter_trans (a b c : Entry) (hab : a.notAfter b = true) (hbc : b.notAfter c = true) :
    a.notAfter c = true := by
  rw [notAfter_iff_toNat] at *
  omega

theorem notAfter_total (a b : Entry) : (a.notAfter b || b.notAfter a) = true := by
  rw [Bool.or_eq_true, notAfter_iff_toNat, notAfter_iff_toNat]
  omega

/-- In entries that are in order, a new one needs to be compared with the last one only. -/
theorem pairwise_concat {es : List Entry} {e : Entry} (hes : es.Pairwise (·.notAfter ·))
    (hlast : es.getLast?.all (·.notAfter e) = true) : (es ++ [e]).Pairwise (·.notAfter ·) := by
  refine List.pairwise_append.mpr ⟨hes, List.pairwise_singleton _ _, fun a ha b hb => ?_⟩
  obtain rfl := List.mem_singleton.mp hb
  cases hes' : es.getLast? with
  | none =>
    rw [List.getLast?_eq_none_iff.mp hes'] at ha
    cases ha
  | some last =>
    have hle : last.notAfter b = true := by simpa [hes'] using hlast
    obtain ⟨init, rfl⟩ := List.getLast?_eq_some_iff.mp hes'
    rcases List.mem_append.mp ha with hinit | hmem
    · exact notAfter_trans a last b ((List.pairwise_append.mp hes).2.2 a hinit last (by simp)) hle
    · rwa [List.mem_singleton.mp hmem]

end Entry

/-- The numbers of entries that follow a token at `line` and `character`. -/
def deltas (line character : UInt32) : List Entry → List UInt32
  | [] => []
  | e :: rest =>
    let dline := e.line - line
    let dcharacter := if dline = 0 then e.character - character else e.character
    dline :: dcharacter :: e.length :: e.type :: e.modifiers :: deltas e.line e.character rest

/-- Collects the tokens of one answer, and remembers whether they still are in document order. -/
structure Builder where
  entries : List Entry
  sorted : Bool
  ordered : sorted = true → entries.Pairwise (·.notAfter ·)

namespace Builder

def empty : Builder := ⟨[], true, fun _ => .nil⟩

/-- Adds a token, in any order. Only the token before it is looked at. -/
def push (b : Builder) (e : Entry) : Builder where
  entries := b.entries ++ [e]
  sorted := b.sorted && b.entries.getLast?.all (·.notAfter e)
  ordered h :=
    have h := (Bool.and_eq_true _ _).mp h
    Entry.pairwise_concat (b.ordered h.1) h.2

/-- The number of tokens pushed. -/
def size (b : Builder) : Nat := b.entries.length

/-- Puts the tokens in document order, if they are not; tokens at one place keep their order. -/
def sort (b : Builder) : Builder :=
  if b.sorted then b
  else
    ⟨b.entries.mergeSort Entry.notAfter, true, fun _ =>
      List.pairwise_mergeSort Entry.notAfter_trans Entry.notAfter_total b.entries⟩

/-- The data of the tokens pushed so far, and the builder with its tokens in order. -/
def build (b : Builder) : List UInt32 × Builder := (deltas 0 0 b.sort.entries, b.sort)

end Builder

/-- The editor's view of a token of a text. -/
def Token.entry (ix : LineIndex) (t : Token) : Entry :=
  let place := ix.placeAt t.span.offset
  ⟨place.line.toNat.toUInt32, place.character.toNat.toUInt32, t.span.text.units.toUInt32,
    t.type.index, t.modifiers.bits⟩

/-- The data of tokens found in a text. -/
def encode (tokens : List Token) (t : Text) : List UInt32 :=
  let ix := LineIndex.ofText t
  (tokens.foldl (fun b tok => b.push (tok.entry ix)) Builder.empty).build.1

end CallLight
