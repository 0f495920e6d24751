import CallLight.Proofs.Position.Boundaries

/-!
# Snapping to boundaries

Some offsets and some places stand for each other: an offset on a line, before a byte that can start
a character or at the end of the line, and the place that is as many units into that line
(`Coincide`). The two maps agree on these pairs, whatever the bytes are. Everything else is moved to
one of them. The place of an offset is that of the last boundary at or before it
(`exists_coincide_placeAt`), so that going back and forth ends after one turn
(`offsetAt_placeAt_round_trip`) and places grow with offsets (`placeAt_mono`). In a well-formed text
the offset of a place is a boundary too, and none before the place (`exists_coincide_offsetAt`);
there the two maps form a Galois connection (`offsetAt_galois_placeAt`).
-/

namespace CallLight

open LineBreaks

/-! ## Snapping to the start of a character -/

namespace Text

/-- The start of a text, its end, and the offsets of bytes that are no tails. -/
def IsBoundary (t : Text) (m : Nat) : Prop := m = 0 ∨ ∀ b ∈ t[m]?, isTail b = false

theorem boundary_le (t : Text) (k : Nat) : t.boundary k ≤ k := by
  induction k with
  | zero => exact Nat.le_refl 0
  | succ k ih =>
    unfold boundary
    split
    · split
      · exact Nat.le_succ_of_le ih
      · exact Nat.le_refl _
    · exact Nat.le_refl _

theorem isBoundary_boundary (t : Text) (k : Nat) : t.IsBoundary (t.boundary k) := by
  induction k with
  | zero => exact .inl rfl
  | succ k ih =>
    unfold boundary
    split
    case h_1 b hb =>
      split
      case isTrue => exact ih
      case isFalse htail => exact .inr (by simpa [hb] using htail)
    case h_2 hnone => exact .inr (by simp [hnone])

/-- No boundary is passed over. -/
theorem IsBoundary.le_boundary {t : Text} {m : Nat} (hm : t.IsBoundary m) {k : Nat} (hk : m ≤ k) :
    m ≤ t.boundary k := by
  induction k with
  | zero => exact hk
  | succ k ih =>
    unfold boundary
    split
    case h_1 b hb =>
      split
      case isTrue htail =>
        -- the byte is a tail, so the boundary is further to the left
        refine ih (Nat.le_of_lt_succ (Nat.lt_of_le_of_ne hk ?_))
        rintro rfl
        rcases hm with hzero | hm
        · cases hzero
        · rw [hm b hb] at htail
          cases htail
      case isFalse => exact hk
    case h_2 => exact hk

theorem IsBoundary.boundary_eq {t : Text} {m : Nat} (hm : t.IsBoundary m) : t.boundary m = m :=
  Nat.le_antisymm (t.boundary_le m) (hm.le_boundary (Nat.le_refl m))

/-- A text cut at a boundary has the characters of its two parts. -/
theorem IsBoundary.runes_eq {t : Text} {m : Nat} (hm : t.IsBoundary m) :
    t.runes = runes (t.take m) ++ runes (t.drop m) := by
  rcases hm with rfl | hm
  · simp [runes]
  · have hhead : ∀ b ∈ (t.drop m).head?, isTail b = false := by rwa [List.head?_drop]
    have happend := runes_append_of_head hhead (t.take m)
    rwa [List.take_append_drop] at happend

/-- Walking as many units as stand before a boundary leads to it. -/
theorem IsBoundary.advance_units {t : Text} {m : Nat} (hm : t.IsBoundary m) (hle : m ≤ t.length) :
    advance t.runes (units (t.take m)) = m := by
  have hwalk := advance_append (runes (t.take m)) (runes (t.drop m)) 0
  rw [← hm.runes_eq, sumWidths_runes, List.length_take_of_le hle, Int.natCast_zero,
    advance_of_nonpos (Int.le_refl 0)] at hwalk
  exact hwalk

/-- No character starts with a tail. -/
theorem head?_ofChars (cs : List Char) : ∀ b ∈ (ofChars cs).head?, isTail b = false := by
  intro b hb
  rcases cs with _ | ⟨c, cs⟩
  · simp at hb
  · rcases encode_eq_cons c with ⟨a, tl, hc, ha, -⟩
    obtain rfl : a = b := by simpa [hc] using hb
    exact ha

/-- Between two characters is a boundary. -/
theorem isBoundary_ofChars (passed rest : List Char) :
    IsBoundary (ofChars (passed ++ rest)) (ofChars passed).length := by
  right
  rw [ofChars_append, List.getElem?_append_right (Nat.le_refl _), Nat.sub_self,
    ← List.head?_eq_getElem?]
  exact head?_ofChars rest

end Text

namespace LineIndex

/-! ## Places and offsets that stand for each other -/

/-- The place and the offset of the boundary that is `m` bytes into line `n`. -/
inductive Coincide (t : Text) : Place → Nat → Prop
  | intro {n m : Nat} {r : Text} (fromLine : bytes.fromLine? n t = some r)
      (boundary : Text.IsBoundary (bytes.firstLine r) m) (le : m ≤ (bytes.firstLine r).length) :
      Coincide t ⟨n, Text.units ((bytes.firstLine r).take m)⟩ (t.length - r.length + m)

/-- The offsets of a line, up to its end, lie on it. -/
theorem liesOn_add {t r : Text} {n m : Nat} (hr : bytes.fromLine? n t = some r)
    (hm : m ≤ (bytes.firstLine r).length) : LiesOn t (t.length - r.length + m) n r where
  fromLine := hr
  start_le := Nat.le_add_right _ _
  lt_next := by
    intro r' hr'
    have hlt := bytes.length_lt_of_nextLine?_eq_some hr'
    have hle := (bytes.suffix_of_fromLine? hr).length_le
    omega

/-- The end of a line is in the text. -/
theorem add_le_length {t r : Text} {n m : Nat} (hr : bytes.fromLine? n t = some r)
    (hm : m ≤ (bytes.firstLine r).length) : t.length - r.length + m ≤ t.length := by
  have hfirst := bytes.length_firstLine_le r
  have hle := (bytes.suffix_of_fromLine? hr).length_le
  omega

theorem Coincide.offsetAt_eq {t : Text} {p : Place} {o : Nat} (h : Coincide t p o) :
    (ofText t).offsetAt p = o := by
  cases h with
  | @intro n m r hr hm hle =>
    have hoffset := offsetAt_of_fromLine? (p := ⟨n, Text.units ((bytes.firstLine r).take m)⟩)
      (Int.natCast_nonneg n) hr
    rwa [hm.advance_units hle] at hoffset

theorem Coincide.placeAt_eq {t : Text} {p : Place} {o : Nat} (h : Coincide t p o) :
    (ofText t).placeAt o = p := by
  cases h with
  | @intro n m r hr hm hle =>
    have hmin : min (Int.toNat (t.length - r.length + m : Nat)) t.length =
        t.length - r.length + m := by
      rw [Int.toNat_natCast, Nat.min_eq_left (add_le_length hr hle)]
    have hlies := liesOn_add hr hle
    rw [← hmin] at hlies
    rw [placeAt_of_liesOn hlies, hmin]
    simp only [Line.column, Nat.add_sub_cancel_left, Nat.min_eq_left hle, hm.boundary_eq]

/-- The place of an offset is that of the last boundary at or before it. -/
theorem exists_coincide_placeAt (t : Text) (o : Int) :
    ∃ last, Coincide t ((ofText t).placeAt o) last ∧ last ≤ o.toNat ∧
      ∀ p o', Coincide t p o' → o' ≤ o.toNat → o' ≤ last := by
  rcases LineIndex.placeAt_eq t o with ⟨n, r, hlies, hplace⟩
  rw [hplace]
  have hstart := hlies.start_le
  let j := min (min o.toNat t.length - (t.length - r.length)) (bytes.firstLine r).length
  have hj := Text.boundary_le (bytes.firstLine r) j
  have hlast := Coincide.intro hlies.fromLine (Text.isBoundary_boundary (bytes.firstLine r) j)
    (by omega)
  refine ⟨_, hlast, by omega, ?_⟩
  intro p o' h ho'
  cases h with
  | @intro n' m' r' hr' hm' hle' =>
    have hin := add_le_length hr' hle'
    rcases Nat.eq_or_lt_of_le ((liesOn_add hr' hle').line_le hlies (by omega)) with rfl | hlt
    · -- on the line of the offset
      obtain rfl : r' = r := Option.some.inj (hr'.symm.trans hlies.fromLine)
      have := hm'.le_boundary (k := j) (by omega)
      omega
    · -- on a line above
      have hlt' := bytes.length_lt_of_fromLine? hlt hr' hlies.fromLine
      have habove := (bytes.suffix_of_fromLine? hr').length_le
      omega

/-- Back from its place, an offset has moved to the left at most. -/
theorem offsetAt_placeAt_le (t : Text) (o : Int) :
    (ofText t).offsetAt ((ofText t).placeAt o) ≤ o.toNat := by
  rcases exists_coincide_placeAt t o with ⟨last, h, hle, -⟩
  rwa [h.offsetAt_eq]

/-- Places grow with offsets. -/
theorem placeAt_mono (t : Text) {o o' : Int} (h : o ≤ o') :
    ((ofText t).placeAt o').before ((ofText t).placeAt o) = false := by
  rcases exists_coincide_placeAt t o with ⟨last, hlast, hle, -⟩
  rcases exists_coincide_placeAt t o' with ⟨last', hlast', -, hgreatest⟩
  have hlasts : last ≤ last' := hgreatest _ _ hlast (by omega)
  rw [← Bool.not_eq_true]
  intro hbefore
  -- the offsets would have to be the same, and then the places are
  have hback := offsetAt_mono t (Place.before_asymm hbefore)
  rw [hlast.offsetAt_eq, hlast'.offsetAt_eq] at hback
  obtain rfl : last = last' := Nat.le_antisymm hlasts hback
  rw [← hlast.placeAt_eq, ← hlast'.placeAt_eq, Place.before_irrefl] at hbefore
  cases hbefore

/-- Behind the content of a line and before the next line are only the two halves of a break. -/
theorem LiesOn.splits {above r : Text} {n j : Nat}
    (h : LiesOn (above ++ r) (above.length + j) n r) (hj : (bytes.firstLine r).length < j)
    (hlt : j < r.length) :
    bytes.Splits ((above ++ r).take (above.length + j)) ((above ++ r).drop (above.length + j)) := by
  rcases hnext : bytes.nextLine? r with _ | r'
  · rw [bytes.firstLine_eq_self_of_nextLine?_eq_none hnext] at hj
    omega
  have hstop := h.lt_next r' hnext
  rcases bytes.exists_break_of_nextLine?_eq_some hnext with ⟨brk, hr, hbrk⟩
  have hlen := congrArg List.length hr
  simp only [List.length_append] at hlen hstop
  rcases hbrk with rfl | rfl | rfl
  · simp only [List.length_singleton] at hlen
    omega
  · simp only [List.length_singleton] at hlen
    omega
  · simp only [List.length_cons, List.length_nil] at hlen
    obtain rfl : j = (bytes.firstLine r).length + 1 := by omega
    have hcut : above ++ r = above ++ (bytes.firstLine r ++ [bytes.cr]) ++ (bytes.lf :: r') := by
      conv_lhs => rw [hr]
      simp
    have hlen' : above.length + ((bytes.firstLine r).length + 1) =
        (above ++ (bytes.firstLine r ++ [bytes.cr])).length := by simp
    rw [hcut, hlen', List.take_left, List.drop_left]
    exact ⟨by simp, rfl⟩

/-- An offset before a byte that is no tail, and not inside a break, is a boundary. -/
theorem exists_coincide_of_not_isTail {t : Text} {i : Nat} {b : UInt8} (hb : t[i]? = some b)
    (htail : Text.isTail b = false) (hsplit : ¬ bytes.Splits (t.take i) (t.drop i)) :
    ∃ p, Coincide t p i := by
  have hi : i < t.length := (List.getElem?_eq_some_iff.mp hb).1
  rcases LineIndex.placeAt_eq t i with ⟨n, r, hlies, -⟩
  rw [Int.toNat_natCast, Nat.min_eq_left hi.le] at hlies
  rcases bytes.suffix_of_fromLine? hlies.fromLine with ⟨above, rfl⟩
  have hstart := hlies.start_le
  rw [List.length_append, Nat.add_sub_cancel] at hstart
  obtain ⟨j, rfl⟩ := Nat.exists_eq_add_of_le hstart
  rw [List.length_append] at hi
  have hj : j ≤ (bytes.firstLine r).length := by
    by_contra hgt
    exact hsplit (hlies.splits (by omega) (by omega))
  have hboundary : Text.IsBoundary (bytes.firstLine r) j := by
    right
    intro x hx
    rcases List.getElem?_eq_some_iff.mp hx with ⟨hlt, rfl⟩
    have hr := List.prefix_iff_getElem?.mp (List.takeWhile_prefix fun x => !bytes.isBreak x) j hlt
    rw [List.getElem?_append_right (Nat.le_add_right _ _), Nat.add_sub_cancel_left] at hb
    obtain rfl := Option.some.inj (hr.symm.trans hb)
    exact htail
  have h := Coincide.intro hlies.fromLine hboundary hj
  rw [List.length_append, Nat.add_sub_cancel] at h
  exact ⟨_, h⟩

/-- Going back and forth on any bytes: an offset comes back at or before where it was, its place
stays, and an offset at which something can start comes back to itself. -/
theorem offsetAt_placeAt_round_trip (t : Text) (o : Int) :
    ((ofText t).offsetAt ((ofText t).placeAt o) : Int) ≤ max o 0 ∧
    (ofText t).placeAt ((ofText t).offsetAt ((ofText t).placeAt o)) = (ofText t).placeAt o ∧
    ∀ b, 0 ≤ o → t[o.toNat]? = some b → Text.isTail b = false →
      ¬ bytes.Splits (t.take o.toNat) (t.drop o.toNat) →
      ((ofText t).offsetAt ((ofText t).placeAt o) : Int) = o := by
  refine ⟨?_, ?_, ?_⟩
  · have := offsetAt_placeAt_le t o
    omega
  · rcases exists_coincide_placeAt t o with ⟨last, h, -, -⟩
    rw [h.offsetAt_eq, h.placeAt_eq]
  · intro b ho hb htail hsplit
    rcases exists_coincide_of_not_isTail hb htail hsplit with ⟨p, h⟩
    have hplace := h.placeAt_eq
    rw [Int.toNat_of_nonneg ho] at hplace
    rw [hplace, h.offsetAt_eq, Int.toNat_of_nonneg ho]

/-- A tail without a start, a start without its tail, and a line break. -/
def strayTails : Text := [0x80, 0x61, 0xE2, 0x82, 13, 10, 0x62]

/-- The start without its tail is found again. -/
theorem offsetAt_placeAt_round_trip_strayTails :
    strayTails[2]? = some 0xE2 ∧ Text.isTail 0xE2 = false ∧
    ¬ bytes.Splits (strayTails.take 2) (strayTails.drop 2) ∧
    ((ofText strayTails).offsetAt ((ofText strayTails).placeAt 2) : Int) = 2 := by
  have hbyte : strayTails[2]? = some 0xE2 := rfl
  have htail : Text.isTail 0xE2 = false := rfl
  have hsplit : ¬ bytes.Splits (strayTails.take 2) (strayTails.drop 2) := by
    rintro ⟨hlast, -⟩
    exact absurd hlast (by decide)
  exact ⟨hbyte, htail, hsplit,
    (offsetAt_placeAt_round_trip strayTails 2).2.2 0xE2 (by decide) hbyte htail hsplit⟩

/-! ## Well-formed texts -/

/-- In a well-formed text the offset of a place is a boundary, and none before the place. -/
theorem exists_coincide_offsetAt {t : Text} (ht : t.isValid = true) {p : Place} {l : Line}
    (hline : 0 ≤ p.line) (hl : (ofText t).lines[p.line.toNat]? = some l)
    (hchar : p.character ≤ l.content.units) :
    ∃ c : Nat, Coincide t ⟨p.line, c⟩ ((ofText t).offsetAt p) ∧ p.character ≤ c := by
  rcases Text.isValid_iff.mp ht with ⟨cs, rfl⟩
  rw [ofText, getElem?_linesFrom, Option.map_eq_some_iff] at hl
  rcases hl with ⟨r, hr, rfl⟩
  -- the line is a line of the characters, and the walk on it passes whole ones
  have hchars := hr
  rw [fromLine?_ofChars, Option.map_eq_some_iff] at hchars
  rcases hchars with ⟨rs, -, rfl⟩
  rw [firstLine_ofChars] at hchar
  rcases exists_advance (chars.firstLine rs) p.character with
    ⟨passed, rest, hpassed, hadvance, henough⟩
  have hfirst : bytes.firstLine (Text.ofChars rs) = Text.ofChars (passed ++ rest) := by
    rw [firstLine_ofChars, hpassed]
  have hoffset := offsetAt_of_fromLine? hline hr
  rw [firstLine_ofChars, Text.runes_ofChars, hadvance] at hoffset
  have hplace : Coincide (Text.ofChars cs) ⟨p.line, Text.units (Text.ofChars passed)⟩
      ((ofText (Text.ofChars cs)).offsetAt p) := by
    have h := Coincide.intro hr (m := (Text.ofChars passed).length)
      (by rw [hfirst]; exact Text.isBoundary_ofChars passed rest) (by rw [hfirst]; simp)
    rwa [hfirst, Text.ofChars_append, List.take_left, Int.toNat_of_nonneg hline, ← hoffset] at h
  refine ⟨_, hplace, ?_⟩
  rcases henough with hle | rfl
  · exact hle
  · rwa [hpassed, List.append_nil] at hchar

/-- In a well-formed text the offset of a place and the place of an offset form a Galois connection:
on all columns that a line has, inside a pair of surrogates or left of the line too, and for all
offsets, inside a character, inside a break or behind the text too. -/
theorem offsetAt_galois_placeAt {t : Text} (ht : t.isValid = true) {p : Place} {l : Line}
    (hline : 0 ≤ p.line) (hl : (ofText t).lines[p.line.toNat]? = some l)
    (hchar : p.character ≤ l.content.units) {o : Int} (ho : 0 ≤ o) :
    ((ofText t).offsetAt p : Int) ≤ o ↔ ((ofText t).placeAt o).before p = false := by
  constructor
  · intro hle
    rcases exists_coincide_offsetAt ht hline hl hchar with ⟨c, h, hc⟩
    have hmono := placeAt_mono t hle
    rw [h.placeAt_eq] at hmono
    -- `p` is not after the place of its offset, and that is not after the place of `o`
    rw [← Bool.not_eq_true, Place.before_iff] at *
    dsimp only at hmono
    omega
  · intro hnot
    have hmono := offsetAt_mono t hnot
    have hback := offsetAt_placeAt_le t o
    omega

/-- A letter and a character of two units, in front of a break of two bytes. -/
def pairText : Text := [0x61, 0xF0, 0x9F, 0x98, 0x80, 13, 10, 0x62]

/-- The column inside the pair has the offset behind it. The place of an offset inside the character
is before that column, the place of one inside the break is not. -/
theorem offsetAt_galois_placeAt_pairText :
    pairText.isValid = true ∧
    (ofText pairText).lines[(0 : Int).toNat]? = some ⟨0, [0x61, 0xF0, 0x9F, 0x98, 0x80]⟩ ∧
    (2 : Int) ≤ Text.units [0x61, 0xF0, 0x9F, 0x98, 0x80] ∧
    (ofText pairText).offsetAt ⟨0, 2⟩ = 5 ∧
    ((ofText pairText).placeAt 3).before ⟨0, 2⟩ = true ∧
    ((ofText pairText).placeAt 6).before ⟨0, 2⟩ = false := by
  have ht : pairText.isValid = true := by decide +kernel
  have hl : (ofText pairText).lines[(0 : Int).toNat]? =
      some ⟨0, [0x61, 0xF0, 0x9F, 0x98, 0x80]⟩ := by decide +kernel
  have hchar : (2 : Int) ≤ Text.units [0x61, 0xF0, 0x9F, 0x98, 0x80] := by decide +kernel
  have hoffset : (ofText pairText).offsetAt ⟨0, 2⟩ = 5 := by decide +kernel
  have hgalois : ∀ o : Int, 0 ≤ o →
      (((ofText pairText).offsetAt ⟨0, 2⟩ : Int) ≤ o ↔
        ((ofText pairText).placeAt o).before ⟨0, 2⟩ = false) := fun o ho =>
    offsetAt_galois_placeAt ht (p := ⟨0, 2⟩) (by decide) hl hchar ho
  rw [hoffset] at hgalois
  refine ⟨ht, hl, hchar, hoffset, ?_, (hgalois 6 (by decide)).mp (by decide)⟩
  rw [← Bool.not_eq_false]
  exact mt (hgalois 3 (by decide)).mpr (by decide)

end LineIndex

end CallLight
