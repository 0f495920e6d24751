import CallLight.Proofs.Position.RoundTrip
import CallLight.Proofs.Position.Snapping

/-!
# Walking through a text

The place of an offset can be found without an index: go through the text from its start, step by
step, count lines and columns, and stop at the last boundary of a step at or before the offset
(`Place.walk`). A step takes a character, or a carriage return with its line feed. In a well-formed text
the index finds the same place (`LineIndex.placeAt_eq_walk`). The proof follows the walk: one lemma
says how the place of an offset changes when a step is put in front of a text
(`placeAt_step_append`), one that offsets inside the first step have the first place
(`placeAt_inside_step`).
-/

namespace CallLight

open LineBreaks
open String (utf8EncodeChar)

namespace Walk

/-- What a walk passes at once. -/
inductive Step where
  | crlf
  | char (c : Char)
deriving DecidableEq, Repr

namespace Step

def chars : Step → List Char
  | .crlf => ['\r', '\n']
  | .char c => [c]

/-- The number of bytes passed. -/
def size : Step → Nat
  | .crlf => 2
  | .char c => c.utf8Size

/-- Whether the step ends a line. -/
def isBreak : Step → Bool
  | .crlf => true
  | .char c => c == '\r' || c == '\n'

/-- The columns passed by a step that ends no line: UTF-16 has one unit for the characters of the
first plane, and two for the others. -/
def columns : Step → Nat
  | .crlf => 0
  | .char c => if c.toNat < 0x10000 then 1 else 2

end Step

/-- The steps through a text. -/
def steps : List Char → List Step
  | '\r' :: '\n' :: cs => .crlf :: steps cs
  | c :: cs => .char c :: steps cs
  | [] => []

end Walk

open Walk (Step steps)

namespace Place

/-- The place behind a step. -/
def pass (p : Place) (u : Step) : Place :=
  if u.isBreak then ⟨p.line + 1, 0⟩ else ⟨p.line, p.character + u.columns⟩

/-- Where a walk from `p` is when it has come to the last boundary of a step that is at most `k`
bytes on. -/
def walk (p : Place) : List Step → Nat → Place
  | [], _ => p
  | u :: us, k => if u.size ≤ k then walk (p.pass u) us (k - u.size) else p

/-- Where the place `q` of a text is when the text stands behind something that ends at `p`. -/
def append (p q : Place) : Place where
  line := p.line + q.line
  character := if q.line = 0 then p.character + q.character else q.character

@[simp] theorem append_zero (p : Place) : p.append ⟨0, 0⟩ = p := by
  simp [append]

@[simp] theorem zero_append (q : Place) : append ⟨0, 0⟩ q = q := by
  simp [append]

/-- A step and a text behind it, put behind something else one after the other or both at once. -/
theorem append_pass (base : Place) (u : Step) {q : Place} (hq : 0 ≤ q.line) :
    base.append ((pass ⟨0, 0⟩ u).append q) = (base.pass u).append q := by
  unfold pass append
  cases u.isBreak with
  | true =>
    -- all of the text is on later lines
    have hline : 0 + 1 + q.line ≠ 0 := by omega
    simp only [if_true, if_neg hline, Place.mk.injEq, and_true]
    omega
  | false =>
    simp only [Bool.false_eq_true, if_false, Int.zero_add, Place.mk.injEq, true_and]
    split <;> omega

end Place

namespace Walk.Step

theorem length_chars (u : Step) : (Text.ofChars u.chars).length = u.size := by
  cases u with
  | crlf => decide
  | char c => simp [chars, size]

/-- A break at the front of a text, with its line feed if it has one, ends the first line. -/
theorem nextLine?_of_isBreak {u : Step} {cs : List Char} (hu : u.isBreak = true)
    (hfirst : steps (u.chars ++ cs) = u :: steps cs) :
    LineBreaks.chars.nextLine? (u.chars ++ cs) = some cs := by
  cases u with
  | crlf => rfl
  | char c =>
    simp only [isBreak, Bool.or_eq_true, beq_iff_eq] at hu
    rcases hu with rfl | rfl
    · rcases cs with _ | ⟨d, cs⟩
      · rfl
      · have hd : d ≠ '\n' := by
          rintro rfl
          simp [chars, steps] at hfirst
        simp [nextLine?, dropLf, LineBreaks.chars, chars, hd]
    · rfl

theorem firstLine_of_isBreak {u : Step} (hu : u.isBreak = true) (cs : List Char) :
    LineBreaks.chars.firstLine (u.chars ++ cs) = [] := by
  cases u with
  | crlf => exact firstLine_cons_of_isBreak _ rfl _
  | char c => exact firstLine_cons_of_isBreak LineBreaks.chars (x := c) hu _

end Walk.Step

namespace Text

/-- Inside the first character nothing else starts. -/
theorem boundary_encode_append (c : Char) (s : Text) {k : Nat} (hk : k < c.utf8Size) :
    boundary (utf8EncodeChar c ++ s) k = 0 := by
  rcases encode_eq_cons c with ⟨a, tl, hc, -, htl⟩
  have hlen := congrArg List.length hc
  rw [String.length_utf8EncodeChar, List.length_cons] at hlen
  induction k with
  | zero => rfl
  | succ k ih =>
    have hk' : k < tl.length := by omega
    have hget : (utf8EncodeChar c ++ s)[k + 1]? = some tl[k] := by
      rw [hc, List.cons_append, List.getElem?_cons_succ, List.getElem?_append_left hk',
        List.getElem?_eq_getElem hk']
    rw [boundary, hget]
    simp only [htl _ (List.getElem_mem hk'), if_true]
    exact ih (by omega)

theorem boundary_append_add {s : Text} (hs : ∀ b ∈ s.head?, isTail b = false) (t : Text) (j : Nat) :
    boundary (t ++ s) (t.length + j) = t.length + boundary s j := by
  induction j with
  | zero => exact boundary_append hs t
  | succ j ih =>
    have hget : (t ++ s)[t.length + j + 1]? = s[j + 1]? := by
      rw [Nat.add_assoc, List.getElem?_append_right (Nat.le_add_right _ _),
        Nat.add_sub_cancel_left]
    rw [← Nat.add_assoc, boundary, boundary, hget, ih]
    split
    · split <;> rfl
    · rfl

end Text

theorem Line.column_nil (start o : Nat) : Line.column ⟨start, []⟩ o = 0 := by
  simp [column, Text.units, Text.runes]

/-- Columns behind a character. -/
theorem Line.column_encode_append (c : Char) {s : Text} (hs : ∀ b ∈ s.head?, Text.isTail b = false)
    (o : Nat) : Line.column ⟨0, utf8EncodeChar c ++ s⟩ (c.utf8Size + o) =
      (Rune.ofChar c).units + Line.column ⟨0, s⟩ o := by
  have hlen := String.length_utf8EncodeChar c
  have hmin : min (c.utf8Size + o - 0) (utf8EncodeChar c ++ s).length =
      (utf8EncodeChar c).length + min (o - 0) s.length := by
    rw [List.length_append]
    omega
  simp only [column]
  rw [hmin, Text.boundary_append_add hs, List.take_length_add_append, Text.units_eq,
    Text.runes_encode_append]
  rfl

namespace LineIndex

/-! ## A text behind another -/

/-- A text behind another: what was line `n` is line `n'`, from the same offset of its own on. -/
theorem LiesOn.behind {w t r : Text} {o n n' : Nat} (h : LiesOn t o n r)
    (hfrom : bytes.fromLine? n' (w ++ t) = some r) : LiesOn (w ++ t) (w.length + o) n' r := by
  have hle := (bytes.suffix_of_fromLine? h.fromLine).length_le
  have hstart := h.start_le
  refine ⟨hfrom, ?_, ?_⟩
  · rw [List.length_append]
    omega
  · intro r' hr'
    have hstop := h.lt_next r' hr'
    have hlt := bytes.length_lt_of_nextLine?_eq_some hr'
    rw [List.length_append]
    omega

theorem placeAt_behind {w t r : Text} {n n' k : Nat} (h : LiesOn t (min k t.length) n r)
    (hfrom : bytes.fromLine? n' (w ++ t) = some r) :
    (ofText (w ++ t)).placeAt (w.length + k : Nat) =
      ⟨n', ((ofText t).placeAt k).character⟩ := by
  have hmin : min (w.length + k) (w ++ t).length = w.length + min k t.length := by
    rw [List.length_append]
    omega
  have hle := (bytes.suffix_of_fromLine? h.fromLine).length_le
  have hstart : (w ++ t).length - r.length = w.length + (t.length - r.length) := by
    rw [List.length_append]
    omega
  have h' := h.behind hfrom
  rw [← hmin] at h'
  rw [placeAt_of_liesOn (o := (w.length + k : Nat)) h', placeAt_of_liesOn (o := k) h,
    Int.toNat_natCast, Int.toNat_natCast, hmin, hstart]
  simp only [Line.column, Nat.add_sub_add_left]

/-- An offset on the first line. -/
theorem placeAt_of_lt_next {t : Text} {k : Nat}
    (hnext : ∀ r, bytes.nextLine? t = some r → k < t.length - r.length) :
    (ofText t).placeAt k = ⟨0, Line.column ⟨0, bytes.firstLine t⟩ k⟩ := by
  have hlies : LiesOn t (min (Int.toNat k) t.length) 0 t := by
    refine ⟨rfl, by omega, ?_⟩
    intro r hr
    have := hnext r hr
    omega
  -- behind the end of the text the column is that of the end
  have hfirst := bytes.length_firstLine_le t
  have hmin : min (min (Int.toNat k) t.length - (t.length - t.length))
      (bytes.firstLine t).length = min (k - 0) (bytes.firstLine t).length := by omega
  rw [placeAt_of_liesOn hlies]
  simp only [Line.column, hmin]
  rfl

/-! ## One step -/

/-- Behind a break all lines are one further down. -/
theorem placeAt_break_append {brk t : Text} (hnext : bytes.nextLine? (brk ++ t) = some t)
    (k : Nat) : (ofText (brk ++ t)).placeAt (brk.length + k : Nat) =
      Place.append ⟨1, 0⟩ ((ofText t).placeAt k) := by
  rcases placeAt_eq t k with ⟨n, r, hlies, hplace⟩
  rw [Int.toNat_natCast] at hlies
  have hfrom : bytes.fromLine? (n + 1) (brk ++ t) = some r := by
    rw [fromLine?, hnext]
    exact hlies.fromLine
  rw [placeAt_behind hlies hfrom, hplace]
  simp [Place.append, Int.add_comm]

theorem placeAt_inside_break {brk t : Text} (hnext : bytes.nextLine? (brk ++ t) = some t)
    (hfirst : bytes.firstLine (brk ++ t) = []) {k : Nat} (hk : k < brk.length) :
    (ofText (brk ++ t)).placeAt k = ⟨0, 0⟩ := by
  rw [placeAt_of_lt_next, hfirst, Line.column_nil]
  · rfl
  · intro r hr
    obtain rfl := Option.some.inj (hnext.symm.trans hr)
    rw [List.length_append]
    omega

section Char

variable {c : Char} (hc : chars.isBreak c = false)
include hc

/-- Behind a character that ends no line the first line is longer, and the others stay. -/
theorem placeAt_char_append (cs : List Char) (k : Nat) :
    (ofText (utf8EncodeChar c ++ Text.ofChars cs)).placeAt (c.utf8Size + k : Nat) =
      Place.append ⟨0, (Rune.ofChar c).units⟩ ((ofText (Text.ofChars cs)).placeAt k) := by
  have hw := utf8_breakCode.not_isBreak c hc
  have hnext := BreakCode.nextLine?_append_of_not_isBreak hw (Text.ofChars cs)
  have hlen := String.length_utf8EncodeChar c
  rcases placeAt_eq (Text.ofChars cs) k with ⟨n, r, hlies, hplace⟩
  rw [Int.toNat_natCast] at hlies
  cases n with
  | zero =>
    have hstop : ∀ r, bytes.nextLine? (Text.ofChars cs) = some r →
        k < (Text.ofChars cs).length - r.length := by
      obtain rfl : Text.ofChars cs = r := Option.some.inj hlies.fromLine
      intro r hr
      have := hlies.lt_next r hr
      omega
    have hhead : ∀ b ∈ (bytes.firstLine (Text.ofChars cs)).head?, Text.isTail b = false := by
      rw [firstLine_ofChars]
      exact Text.head?_ofChars _
    rw [placeAt_of_lt_next hstop, placeAt_of_lt_next, bytes.firstLine_append_of_not_isBreak hw,
      Line.column_encode_append c hhead]
    · simp [Place.append]
    · intro r hr
      rw [hnext] at hr
      have := hstop r hr
      rw [List.length_append]
      omega
  | succ n =>
    have hfrom : bytes.fromLine? (n + 1) (utf8EncodeChar c ++ Text.ofChars cs) = some r := by
      rw [fromLine?, hnext]
      exact hlies.fromLine
    have hbehind := placeAt_behind hlies hfrom
    rw [hlen] at hbehind
    have hline : ((n + 1 : Nat) : Int) ≠ 0 := by omega
    rw [hbehind, hplace]
    simp only [Place.append, Int.zero_add, if_neg hline]

theorem placeAt_inside_char (t : Text) {k : Nat} (hk : k < c.utf8Size) :
    (ofText (utf8EncodeChar c ++ t)).placeAt k = ⟨0, 0⟩ := by
  have hw := utf8_breakCode.not_isBreak c hc
  have hlen := String.length_utf8EncodeChar c
  rw [placeAt_of_lt_next, bytes.firstLine_append_of_not_isBreak hw]
  · have hmin : min (k - 0) (utf8EncodeChar c ++ bytes.firstLine t).length = k := by
      rw [List.length_append]
      omega
    simp only [Line.column]
    rw [hmin, Text.boundary_encode_append c _ hk]
    simp [Text.units, Text.runes]
  · intro r hr
    rw [BreakCode.nextLine?_append_of_not_isBreak hw] at hr
    have := bytes.length_lt_of_nextLine?_eq_some hr
    rw [List.length_append]
    omega

end Char

section FirstStep

variable {u : Step} {cs : List Char} (hfirst : steps (u.chars ++ cs) = u :: steps cs)
include hfirst

theorem nextLine?_step_append (hbreak : u.isBreak = true) :
    bytes.nextLine? (Text.ofChars u.chars ++ Text.ofChars cs) = some (Text.ofChars cs) := by
  rw [← Text.ofChars_append, nextLine?_ofChars, Step.nextLine?_of_isBreak hbreak hfirst,
    Option.map_some]

/-- A step in front of a text moves the places of the text on. -/
theorem placeAt_step_append (k : Nat) :
    (ofText (Text.ofChars (u.chars ++ cs))).placeAt (u.size + k : Nat) =
      (Place.pass ⟨0, 0⟩ u).append ((ofText (Text.ofChars cs)).placeAt k) := by
  rw [Text.ofChars_append]
  cases hbreak : u.isBreak with
  | true =>
    rw [← u.length_chars, placeAt_break_append (nextLine?_step_append hfirst hbreak), Place.pass,
      if_pos hbreak]
    rfl
  | false =>
    cases u with
    | crlf => cases hbreak
    | char c =>
      have h := placeAt_char_append (c := c) hbreak cs k
      simp only [Step.chars, Text.ofChars_cons, Text.ofChars_nil, List.append_nil, Step.size]
      rw [h, Place.pass, hbreak]
      simp only [Bool.false_eq_true, if_false, Int.zero_add]
      rfl

/-- Offsets inside the first step have the first place. -/
theorem placeAt_inside_step {k : Nat} (hk : k < u.size) :
    (ofText (Text.ofChars (u.chars ++ cs))).placeAt k = ⟨0, 0⟩ := by
  rw [Text.ofChars_append]
  cases hbreak : u.isBreak with
  | true =>
    refine placeAt_inside_break (nextLine?_step_append hfirst hbreak) ?_ (by rwa [u.length_chars])
    rw [← Text.ofChars_append, firstLine_ofChars, Step.firstLine_of_isBreak hbreak,
      Text.ofChars_nil]
  | false =>
    cases u with
    | crlf => cases hbreak
    | char c =>
      have h := placeAt_inside_char (c := c) hbreak (Text.ofChars cs) hk
      simpa [Step.chars] using h

end FirstStep

/-- Offsets outside the text have the place of its nearer end. -/
theorem placeAt_min (ix : LineIndex) (o : Int) :
    ix.placeAt (min o.toNat ix.size : Nat) = ix.placeAt o := by
  rw [placeAt, placeAt, Int.toNat_natCast, Nat.min_assoc, Nat.min_self]

theorem line_placeAt_nonneg (t : Text) (o : Int) : 0 ≤ ((ofText t).placeAt o).line := by
  rcases placeAt_eq t o with ⟨n, r, -, hplace⟩
  rw [hplace]
  exact Int.natCast_nonneg n

/-! ## The walk -/

/-- One step of the walk, given that the rest of it agrees with the index. -/
theorem append_placeAt_cons {u : Step} {cs : List Char}
    (hfirst : steps (u.chars ++ cs) = u :: steps cs)
    (ih : ∀ (base : Place) (k : Nat),
      base.append ((ofText (Text.ofChars cs)).placeAt k) = base.walk (steps cs) k)
    (base : Place) (k : Nat) :
    base.append ((ofText (Text.ofChars (u.chars ++ cs))).placeAt k) =
      base.walk (u :: steps cs) k := by
  unfold Place.walk
  split
  case isTrue hle =>
    obtain ⟨rest, rfl⟩ := Nat.exists_eq_add_of_le hle
    rw [placeAt_step_append hfirst, Place.append_pass _ _ (line_placeAt_nonneg _ _), ih,
      Nat.add_sub_cancel_left]
  case isFalse hlt =>
    rw [placeAt_inside_step hfirst (Nat.lt_of_not_le hlt), Place.append_zero]

/-- The index and the walk find the same place. -/
theorem append_placeAt_eq_walk (base : Place) (cs : List Char) (k : Nat) :
    base.append ((ofText (Text.ofChars cs)).placeAt k) = base.walk (steps cs) k := by
  fun_induction steps cs generalizing base k with
  | case1 cs ih => exact append_placeAt_cons (u := .crlf) rfl ih base k
  | case2 c cs hne ih =>
    refine append_placeAt_cons (u := .char c) ?_ ih base k
    change steps (c :: cs) = _
    rw [steps]
    exact hne
  | case3 =>
    rw [Text.ofChars_nil, placeAt_of_lt_next (by simp [nextLine?])]
    change base.append ⟨0, Line.column ⟨0, []⟩ k⟩ = base
    rw [Line.column_nil]
    exact base.append_zero

/-- In a well-formed text the place of an offset is where the walk ends that goes to the last
boundary of a step at or before the offset, brought into the text. -/
theorem placeAt_eq_walk {t : Text} (ht : t.isValid = true) (o : Int) :
    (ofText t).placeAt o = Place.walk ⟨0, 0⟩ (steps t.chars) (min o.toNat t.length) := by
  rcases Text.isValid_iff.mp ht with ⟨cs, rfl⟩
  rw [Text.chars_ofChars, ← append_placeAt_eq_walk, Place.zero_append]
  exact ((ofText (Text.ofChars cs)).placeAt_min o).symm

/-- Two characters of several bytes on either side of each kind of break. -/
def brokenText : Text := [0xC3, 0xA9, 13, 10, 10, 13, 0xF0, 0x9F, 0x98, 0x80, 0x78]

/-- The walk to an offset inside the last character but one stops before it, and so does the
index. -/
theorem placeAt_eq_walk_brokenText :
    brokenText.isValid = true ∧
    Place.walk ⟨0, 0⟩ (steps brokenText.chars) (min (8 : Int).toNat brokenText.length) = ⟨3, 0⟩ ∧
    (ofText brokenText).placeAt 8 = ⟨3, 0⟩ ∧
    Place.walk ⟨0, 0⟩ (steps brokenText.chars) (min (99 : Int).toNat brokenText.length) = ⟨3, 3⟩ ∧
    (ofText brokenText).placeAt 99 = ⟨3, 3⟩ := by
  have ht : brokenText.isValid = true := by decide +kernel
  have hinside : Place.walk ⟨0, 0⟩ (steps brokenText.chars) (min (8 : Int).toNat brokenText.length) =
      ⟨3, 0⟩ := by decide +kernel
  have hbehind : Place.walk ⟨0, 0⟩ (steps brokenText.chars) (min (99 : Int).toNat brokenText.length) =
      ⟨3, 3⟩ := by decide +kernel
  exact ⟨ht, hinside, (placeAt_eq_walk ht 8).trans hinside, hbehind,
    (placeAt_eq_walk ht 99).trans hbehind⟩

end LineIndex

end CallLight
