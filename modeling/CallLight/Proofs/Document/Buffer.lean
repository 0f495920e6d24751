import CallLight.Proofs.Position.Offsets
import CallLight.Document.Change

/-!
# Buffers of an editor

An editor keeps a document as UTF-16 units and edits between unit indices; the server keeps bytes
and edits between byte offsets. Both stand for a sequence of characters, and a change that the
editor may send does the same to it on either side (`apply_ofChars`). Three things have to agree for
that: where lines start, how far a column reaches, and that neither end of a change cuts a
character.
-/

namespace CallLight

/-- The UTF-16 form of a character: one unit, or a surrogate pair. -/
def utf16EncodeChar (c : Char) : List UInt16 :=
  if c.toNat < 0x10000 then [.ofNat c.toNat]
  else
    [.ofNat (0xD800 + (c.toNat - 0x10000) / 0x400), .ofNat (0xDC00 + (c.toNat - 0x10000) % 0x400)]

/-- A document as an editor keeps it: its UTF-16 units. -/
abbrev Buffer := List UInt16

namespace Buffer

def ofChars (cs : List Char) : Buffer := cs.flatMap utf16EncodeChar

def ofText (t : Text) : Buffer := ofChars t.chars

def isHigh (u : UInt16) : Bool := 0xD800 ≤ u && u ≤ 0xDBFF

def isLow (u : UInt16) : Bool := 0xDC00 ≤ u && u ≤ 0xDFFF

/-- Whether an index falls between the two halves of a surrogate pair. -/
def splitsPair (b : Buffer) : Nat → Bool
  | 0 => false
  | i + 1 => b[i]?.any isHigh && b[i + 1]?.any isLow

/-- The index of a position: on its line, but not past the end of it. Lines below the buffer count
as its end. -/
def index (b : Buffer) (p : Position) : Nat :=
  match LineBreaks.units.fromLine? p.line.toNat b with
  | some r =>
    b.length - r.length + min p.character.toNat (LineBreaks.units.firstLine r).length
  | none => b.length

/-- The buffer after a change. -/
def edit (b : Buffer) (c : Change) : Buffer :=
  match c.range with
  | none => ofText c.text
  | some r => b.take (b.index r.start) ++ ofText c.text ++ b.drop (b.index r.stop)

end Buffer

/-- A change that an editor may send of a buffer: its text is well-formed, its range does not end
before it starts, and neither end cuts a character. -/
structure Change.IsProper (c : Change) (b : Buffer) : Prop where
  text : c.text.isValid = true
  ordered : ∀ r ∈ c.range, r.stop.place.before r.start.place = false
  start_whole : ∀ r ∈ c.range, b.splitsPair (b.index r.start) = false
  stop_whole : ∀ r ∈ c.range, b.splitsPair (b.index r.stop) = false

/-- Changes that an editor may send together, each of the buffer that the one before it left. -/
def Change.AllProper : List Change → Buffer → Prop
  | [], _ => True
  | c :: cs, b => c.IsProper b ∧ AllProper cs (b.edit c)

namespace Buffer

/-! ## Units -/

theorem length_utf16EncodeChar (c : Char) :
    (utf16EncodeChar c).length = (Rune.ofChar c).units := by
  by_cases h : c.toNat < 0x10000 <;> simp [utf16EncodeChar, Rune.units, Rune.ofChar, h]

/-- A character of two units is a high and a low surrogate. -/
theorem utf16EncodeChar_of_units {c : Char} (h : (Rune.ofChar c).units = 2) :
    ∃ hi lo, utf16EncodeChar c = [hi, lo] ∧ isHigh hi = true ∧ isLow lo = true := by
  have hc : c.toNat < 0xD800 ∨ 0xDFFF < c.toNat ∧ c.toNat < 0x110000 := c.valid
  have hge : ¬ c.toNat < 0x10000 := by
    intro hlt
    rw [Rune.units, Rune.ofChar, if_pos hlt] at h
    cases h
  refine ⟨_, _, by rw [utf16EncodeChar, if_neg hge], ?_, ?_⟩
  · simp only [isHigh, Bool.and_eq_true, decide_eq_true_eq, UInt16.le_iff_toNat_le,
      UInt16.toNat_ofNat']
    simp
    omega
  · simp only [isLow, Bool.and_eq_true, decide_eq_true_eq, UInt16.le_iff_toNat_le,
      UInt16.toNat_ofNat']
    simp
    omega

/-- UTF-16 leaves line breaks alone. -/
theorem utf16_breakCode : LineBreaks.units.BreakCode utf16EncodeChar where
  cr := by decide
  lf := by decide
  ne_nil := by
    intro c
    unfold utf16EncodeChar
    split <;> simp
  not_isBreak := by
    intro c hc x hx
    have hv : c.toNat < 0xD800 ∨ 0xDFFF < c.toNat ∧ c.toNat < 0x110000 := c.valid
    simp only [LineBreaks.isBreak, LineBreaks.chars, LineBreaks.units, Bool.or_eq_false_iff,
      beq_eq_false_iff_ne, ne_eq, ← Char.toNat_inj, ← UInt16.toNat_inj] at hc ⊢
    unfold utf16EncodeChar at hx
    split at hx <;> simp only [List.mem_cons, List.not_mem_nil, or_false] at hx
    · rw [hx, UInt16.toNat_ofNat']
      simp at hc ⊢
      omega
    · -- the halves of a pair are far above the breaks
      rcases hx with rfl | rfl <;> rw [UInt16.toNat_ofNat'] <;> simp <;> omega

@[simp] theorem ofChars_nil : ofChars [] = [] := rfl

@[simp] theorem ofChars_cons (c : Char) (cs : List Char) :
    ofChars (c :: cs) = utf16EncodeChar c ++ ofChars cs := by
  simp [ofChars]

@[simp] theorem ofChars_append (cs ds : List Char) :
    ofChars (cs ++ ds) = ofChars cs ++ ofChars ds := by
  simp [ofChars]

theorem ofText_ofChars (cs : List Char) : ofText (Text.ofChars cs) = ofChars cs := by
  rw [ofText, Text.chars_ofChars]

/-! ## Columns and positions -/

/-- Walking a line by units and walking it by bytes pass the same characters, unless the units end
inside the last one. -/
theorem exists_advance_ofChars (line : List Char) (c : Nat) : ∃ passed rest,
    line = passed ++ rest ∧
    advance (line.map Rune.ofChar) c = (Text.ofChars passed).length ∧
    (min c (ofChars line).length = (ofChars passed).length ∨
      ∃ whole d, passed = whole ++ [d] ∧ (Rune.ofChar d).units = 2 ∧
        min c (ofChars line).length = (ofChars whole).length + 1) := by
  induction line generalizing c with
  | nil => exact ⟨[], [], rfl, rfl, .inl (by simp)⟩
  | cons d ds ih =>
    have hunits := length_utf16EncodeChar d
    rcases Nat.eq_zero_or_pos c with rfl | hc
    · exact ⟨[], d :: ds, rfl, rfl, .inl (by simp)⟩
    simp only [List.map_cons, advance, if_pos (show (0 : Int) < c by omega)]
    by_cases hle : (Rune.ofChar d).units ≤ c
    · -- the whole character is passed
      rcases ih (c - (Rune.ofChar d).units) with ⟨passed, rest, rfl, hadv, hmin⟩
      refine ⟨d :: passed, rest, rfl, ?_, ?_⟩
      · rw [← Int.ofNat_sub hle, hadv]
        simp [Rune.ofChar]
      · rcases hmin with hmin | ⟨whole, e, rfl, he, hmin⟩
        · left
          simp only [ofChars_cons, List.length_append, hunits] at hmin ⊢
          omega
        · refine .inr ⟨d :: whole, e, rfl, he, ?_⟩
          simp only [ofChars_cons, List.length_append, hunits] at hmin ⊢
          omega
    · -- the units end inside a pair
      have htwo : (Rune.ofChar d).units = 2 ∧ c = 1 := by
        have : (Rune.ofChar d).units ≤ 2 := by
          unfold Rune.units
          split <;> omega
        omega
      refine ⟨[d], ds, rfl, ?_, .inr ⟨[], d, rfl, htwo.1, ?_⟩⟩
      · rw [advance_of_nonpos (by omega)]
        simp [Rune.ofChar]
      · simp only [ofChars_cons, List.length_append, hunits, ofChars_nil, List.length_nil]
        omega

theorem splitsPair_of_units {d : Char} (hd : (Rune.ofChar d).units = 2) (before after : Buffer) :
    splitsPair (before ++ (utf16EncodeChar d ++ after)) (before.length + 1) = true := by
  rcases utf16EncodeChar_of_units hd with ⟨hi, lo, henc, hhi, hlo⟩
  simp [splitsPair, henc, hhi, hlo]

/-- The offset of a position in a text and its index in the buffer of the same characters stand
between the same characters, unless the index splits a pair. -/
theorem exists_offsetAt_ofChars (cs : List Char) (p : Position) : ∃ before after,
    cs = before ++ after ∧
    (LineIndex.ofText (Text.ofChars cs)).offsetAt p.place = (Text.ofChars before).length ∧
    ((ofChars cs).splitsPair ((ofChars cs).index p) = false →
      (ofChars cs).index p = (ofChars before).length) := by
  have hunits := utf16_breakCode.fromLine?_flatMap (by decide) p.line.toNat cs
  have hbytes := LineBreaks.fromLine?_ofChars p.line.toNat cs
  have hline : 0 ≤ p.place.line := Int.natCast_nonneg _
  have hnat : p.place.line.toNat = p.line.toNat := Int.toNat_natCast _
  rcases hfrom : LineBreaks.chars.fromLine? p.line.toNat cs with _ | r
  · -- below the text
    rw [hfrom] at hbytes hunits
    refine ⟨cs, [], (List.append_nil cs).symm, ?_, fun _ => ?_⟩
    · exact LineIndex.offsetAt_of_fromLine?_eq_none hline (by rw [hnat, hbytes]; rfl)
    · rw [index, show ofChars cs = cs.flatMap utf16EncodeChar from rfl, hunits]
      rfl
  · rw [hfrom, Option.map_some] at hbytes hunits
    rcases LineBreaks.chars.suffix_of_fromLine? hfrom with ⟨above, rfl⟩
    obtain ⟨after, hafter⟩ : LineBreaks.chars.firstLine r <+: r := List.takeWhile_prefix _
    obtain ⟨passed, rest, hpassed, hadv, hmin⟩ :=
      exists_advance_ofChars (LineBreaks.chars.firstLine r) p.character.toNat
    have hr : r = passed ++ (rest ++ after) := by
      rw [← hafter, hpassed, List.append_assoc]
    refine ⟨above ++ passed, rest ++ after, by rw [hr, List.append_assoc], ?_, ?_⟩
    · -- in the text: the lines above, and the characters passed
      rw [LineIndex.offsetAt_of_fromLine? hline (by rw [hnat]; exact hbytes),
        LineBreaks.firstLine_ofChars, Text.runes_ofChars,
        show p.place.character = p.character.toNat from rfl, hadv]
      simp only [Text.ofChars_append, List.length_append]
      omega
    · -- in the buffer: the same lines above, and the units that the column reaches
      have hindex : (ofChars (above ++ r)).index p = (ofChars above).length +
          min p.character.toNat (ofChars (LineBreaks.chars.firstLine r)).length := by
        rw [index, show ofChars (above ++ r) = (above ++ r).flatMap utf16EncodeChar from rfl,
          hunits]
        dsimp only
        rw [utf16_breakCode.firstLine_flatMap, List.flatMap_append, List.length_append,
          Nat.add_sub_cancel]
        rfl
      intro hsplit
      rw [hindex] at hsplit ⊢
      rcases hmin with hmin | ⟨whole, d, rfl, hd, hmin⟩
      · rw [hmin, ofChars_append, List.length_append]
      · -- the index would stand between the units of `d`
        rw [hmin, ← Nat.add_assoc] at hsplit
        have hpair := splitsPair_of_units hd (ofChars (above ++ whole)) (ofChars (rest ++ after))
        rw [ofChars_append, List.length_append, ← ofChars_cons, ← ofChars_append] at hpair
        rw [hr] at hsplit
        simp only [List.append_assoc, List.cons_append, List.nil_append, ofChars_append,
          ofChars_cons] at hsplit hpair
        rw [hpair] at hsplit
        cases hsplit

/-! ## Changes -/

theorem apply_of_range {c : Change} {r : Range} (h : c.range = some r) (t : Text) : c.apply t =
    if (LineIndex.ofText t).offsetAt r.stop.place < (LineIndex.ofText t).offsetAt r.start.place then
      .error ⟨r⟩
    else .ok (t.take ((LineIndex.ofText t).offsetAt r.start.place) ++ c.text ++
      t.drop ((LineIndex.ofText t).offsetAt r.stop.place)) := by
  unfold Change.apply
  rw [h]
  rfl

/-- A proper change is taken, and does the same to the text as to the buffer. -/
theorem apply_ofChars {c : Change} {cs : List Char} (hc : c.IsProper (ofChars cs)) :
    ∃ ds, c.apply (Text.ofChars cs) = .ok (Text.ofChars ds) ∧ (ofChars cs).edit c = ofChars ds := by
  rcases Text.isValid_iff.mp hc.text with ⟨new, hnew⟩
  rcases hrange : c.range with _ | r
  · exact ⟨new, by rw [Change.apply, hrange, hnew], by rw [edit, hrange, hnew, ofText_ofChars]⟩
  rcases exists_offsetAt_ofChars cs r.start with ⟨before, after, hcs, hstart, hindex⟩
  rcases exists_offsetAt_ofChars cs r.stop with ⟨before', after', hcs', hstop, hindex'⟩
  have hle := LineIndex.offsetAt_mono (Text.ofChars cs) (hc.ordered r hrange)
  -- what stands before the start and after the stop is kept, on both sides
  refine ⟨before ++ new ++ after', ?_, ?_⟩
  · have htake : (Text.ofChars cs).take (Text.ofChars before).length = Text.ofChars before := by
      rw [hcs, Text.ofChars_append, List.take_left]
    have hdrop : (Text.ofChars cs).drop (Text.ofChars before').length = Text.ofChars after' := by
      rw [hcs', Text.ofChars_append, List.drop_left]
    rw [apply_of_range hrange, if_neg (Nat.not_lt.mpr hle), hstart, hstop, htake, hdrop, hnew]
    simp only [Text.ofChars_append]
  · have htake : (ofChars cs).take (ofChars before).length = ofChars before := by
      rw [hcs, ofChars_append, List.take_left]
    have hdrop : (ofChars cs).drop (ofChars before').length = ofChars after' := by
      rw [hcs', ofChars_append, List.drop_left]
    rw [edit, hrange]
    dsimp only
    rw [hindex (hc.start_whole r hrange), hindex' (hc.stop_whole r hrange), hnew, ofText_ofChars,
      htake, hdrop]
    simp only [ofChars_append]

theorem applyAll_ofChars {changes : List Change} {cs : List Char}
    (h : Change.AllProper changes (ofChars cs)) (i : Nat) :
    ∃ ds, applyAll i changes (Text.ofChars cs) = .ok (Text.ofChars ds) ∧
      changes.foldl edit (ofChars cs) = ofChars ds := by
  induction changes generalizing cs i with
  | nil => exact ⟨cs, rfl, rfl⟩
  | cons c changes ih =>
    rcases apply_ofChars h.1 with ⟨ds, happly, hedit⟩
    -- the next change meets the characters that this one left
    have hrest := h.2
    rw [hedit] at hrest
    rcases ih hrest (i + 1) with ⟨es, happlyAll, hfold⟩
    refine ⟨es, ?_, ?_⟩
    · rw [applyAll, happly]
      exact happlyAll
    · rw [List.foldl_cons, hedit, hfold]

end Buffer

end CallLight
