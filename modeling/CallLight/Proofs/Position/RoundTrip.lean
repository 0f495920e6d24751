import CallLight.Proofs.Position.Offsets

/-!
# From offsets to places and back

A piece of ASCII that stands on one line is found again through the place of its first byte: the
place leads back to the offset, and as many columns further on stands the end of the piece
(`exists_placeAt_ascii`). Every column of it is one byte wide (`exists_placeAt_columns`). What
stands before it on the line may be any bytes.
-/

namespace CallLight

open LineBreaks

/-- An offset before which no character goes on is a boundary. -/
theorem Text.boundary_append {s : Text} (hs : ∀ b ∈ s.head?, isTail b = false) (t : Text) :
    Text.boundary (t ++ s) t.length = t.length := by
  cases hn : t.length with
  | zero => rfl
  | succ n =>
    have hget : (t ++ s)[n + 1]? = s.head? := by
      rw [← hn, List.getElem?_append_right (Nat.le_refl _), Nat.sub_self, List.head?_eq_getElem?]
    rw [boundary, hget]
    cases hhead : s.head? with
    | none => rfl
    | some b =>
      simp only [hs b hhead]
      rfl

theorem Line.column_append {s : Text} (hs : ∀ b ∈ s.head?, Text.isTail b = false) (start : Nat)
    (t : Text) : Line.column ⟨start, t ++ s⟩ (start + t.length) = t.units := by
  have hk : min (start + t.length - start) (t ++ s).length = t.length := by
    rw [List.length_append]
    omega
  simp only [column, hk, Text.boundary_append hs, List.take_left]

/-- Walking to a piece of ASCII and over it. -/
theorem advance_ascii {w s : Text} (hs : ∀ b ∈ (w ++ s).head?, Text.isTail b = false)
    (hw : ∀ b ∈ w, b.toNat < 128) (t : Text) :
    advance (Text.runes (t ++ (w ++ s))) (t.units + w.length : Nat) = t.length + w.length := by
  have hover : advance (Text.runes w ++ Text.runes s) w.length = w.length := by
    have hunits : Rune.sumUnits w.runes = w.length := Text.units_ascii hw
    have := advance_append w.runes s.runes 0
    rwa [hunits, Text.sumWidths_runes, Int.natCast_zero, advance_of_nonpos (Int.le_refl 0),
      Nat.add_zero] at this
  rw [Text.runes_append_of_head hs, Text.runes_ascii_append hw, Text.units_eq, advance_append,
    Text.sumWidths_runes, hover]

namespace LineIndex

/-- A line that holds a byte other than a break goes on at that byte. -/
theorem LiesOn.lt_firstLine {pre mid rest r : Text} {n : Nat} {b : UInt8}
    (h : LiesOn (pre ++ r) (pre.length + mid.length) n r) (hr : r = mid ++ b :: rest)
    (hb : bytes.isBreak b = false) : mid.length < (bytes.firstLine r).length := by
  have hlen := congrArg List.length hr
  simp only [List.length_append, List.length_cons] at hlen
  rcases hnext : bytes.nextLine? r with _ | r'
  · rw [bytes.firstLine_eq_self_of_nextLine?_eq_none hnext]
    omega
  · rcases bytes.eq_append_of_nextLine?_eq_some hnext with ⟨brk, hsplit, -, hbrk⟩
    by_contra hle
    -- then the byte is one of the break after the line
    have hlt := h.lt_next r' hnext
    have hsum := congrArg List.length hsplit
    simp only [List.length_append] at hlt hsum
    have hget : r[mid.length]? = some b := by
      rw [hr, List.getElem?_append_right (Nat.le_refl _), Nat.sub_self, List.getElem?_cons_zero]
    rw [hsplit, List.append_assoc, List.getElem?_append_right (by omega),
      List.getElem?_append_left (by omega)] at hget
    rw [hbrk b (List.mem_of_getElem? hget)] at hb
    cases hb

/-- What stands on the line before a byte other than a break. -/
theorem LiesOn.exists_mid {before rest r : Text} {n : Nat} {b : UInt8}
    (h : LiesOn (before ++ b :: rest) before.length n r) (hb : bytes.isBreak b = false) :
    ∃ pre mid, before = pre ++ mid ∧ r = mid ++ b :: rest ∧ ∀ x ∈ mid, bytes.isBreak x = false := by
  rcases bytes.suffix_of_fromLine? h.fromLine with ⟨pre, hpre⟩
  have hle : pre.length ≤ before.length := by
    have hstart := h.start_le
    rw [← hpre, List.length_append] at hstart
    omega
  rcases List.prefix_of_prefix_length_le ⟨r, hpre⟩ (List.prefix_append _ _) hle with ⟨mid, rfl⟩
  have hr : r = mid ++ b :: rest :=
    List.append_cancel_left (hpre.trans (List.append_assoc _ _ _))
  rw [← hpre, List.length_append] at h
  have hlt := h.lt_firstLine hr hb
  have hsub : mid <+: bytes.firstLine r :=
    List.prefix_of_prefix_length_le ⟨_, hr.symm⟩ (List.takeWhile_prefix _) hlt.le
  exact ⟨pre, mid, rfl, hr, fun x hx => bytes.not_isBreak_of_mem_firstLine (hsub.subset hx)⟩

/-- ASCII that stands on one line is found again through the place of its first byte. -/
theorem exists_placeAt_ascii {t before w after : Text} (ht : t = before ++ (w ++ after))
    (hne : w ≠ []) (hascii : ∀ b ∈ w, b.toNat < 128)
    (hbreak : ∀ b ∈ w, bytes.isBreak b = false) :
    ∃ l c : Nat, (ofText t).placeAt before.length = ⟨l, c⟩ ∧ l + c ≤ before.length ∧
      (ofText t).offsetAt ⟨l, c⟩ = before.length ∧
      (ofText t).offsetAt ⟨l, (c + w.length : Nat)⟩ = before.length + w.length := by
  rcases List.exists_cons_of_ne_nil hne with ⟨b, w', rfl⟩
  rcases placeAt_eq t before.length with ⟨n, r, hlies, hplace⟩
  have hmin : min (before.length : Int).toNat t.length = before.length := by
    rw [ht, List.length_append]
    omega
  rw [hmin] at hlies hplace
  have hmid := hlies
  rw [ht, List.cons_append] at hmid
  rcases hmid.exists_mid (hbreak b (by simp)) with ⟨pre, mid, rfl, hr, hnobreak⟩
  have hstart : t.length - r.length = pre.length := by
    rw [ht, hr]
    simp only [List.length_append, List.length_cons]
    omega
  -- the line reads `mid`, the piece, and what is left of it
  have hline : bytes.firstLine r = mid ++ ((b :: w') ++ bytes.firstLine after) := by
    rw [hr, bytes.firstLine_append_of_not_isBreak hnobreak, ← List.cons_append,
      bytes.firstLine_append_of_not_isBreak hbreak]
  -- the piece starts a character, so that those of `mid` end before it
  have htail : Text.isTail b = false := by
    rw [← Bool.not_eq_true, Text.isTail_iff]
    have := hascii b (by simp)
    omega
  have hhead : ∀ s : Text, ∀ x ∈ ((b :: w') ++ s).head?, Text.isTail x = false := by
    intro s x hx
    obtain rfl : b = x := by simpa using hx
    exact htail
  have hoffset : ∀ c : Int, (ofText t).offsetAt ⟨n, c⟩ =
      pre.length + advance (Text.runes (mid ++ ((b :: w') ++ bytes.firstLine after))) c := by
    intro c
    have := offsetAt_of_fromLine? (p := ⟨n, c⟩) (Int.natCast_nonneg n) hlies.fromLine
    rwa [hstart, hline] at this
  have hunits := Text.units_le_length mid
  have hlines := bytes.add_length_le_of_fromLine? hlies.fromLine
  refine ⟨n, mid.units, ?_, ?_, ?_, ?_⟩
  · rw [hplace, hstart, hline, List.length_append, Line.column_append (hhead _)]
  · rw [List.length_append]
    omega
  · have hwalk := advance_ascii (w := []) (hhead (bytes.firstLine after)) (by simp) mid
    rw [hoffset, List.length_append]
    exact congrArg (pre.length + ·) hwalk
  · rw [hoffset, advance_ascii (hhead _) hascii, List.length_append, Nat.add_assoc]

/-- Each column of such a piece is one byte. -/
theorem exists_placeAt_columns {t before w after : Text} (ht : t = before ++ (w ++ after))
    (hne : w ≠ []) (hascii : ∀ b ∈ w, b.toNat < 128)
    (hbreak : ∀ b ∈ w, bytes.isBreak b = false) :
    ∃ l c : Nat, (ofText t).placeAt before.length = ⟨l, c⟩ ∧ l + c ≤ before.length ∧
      ∀ i ≤ w.length, (ofText t).offsetAt ⟨l, (c + i : Nat)⟩ = before.length + i := by
  rcases exists_placeAt_ascii ht hne hascii hbreak with ⟨l, c, hplace, hle, hstart, -⟩
  refine ⟨l, c, hplace, hle, fun i hi => ?_⟩
  rcases Nat.eq_zero_or_pos i with rfl | hpos
  · exact hstart
  -- the first `i` bytes are a piece of their own, at the same place
  have hlen : (w.take i).length = i := by rw [List.length_take, Nat.min_eq_left hi]
  have hne' : w.take i ≠ [] := List.ne_nil_of_length_pos (by omega)
  have ht' : t = before ++ (w.take i ++ (w.drop i ++ after)) := by
    rw [← List.append_assoc (w.take i), List.take_append_drop, ht]
  rcases exists_placeAt_ascii ht' hne' (fun b hb => hascii b (List.mem_of_mem_take hb))
    (fun b hb => hbreak b (List.mem_of_mem_take hb)) with ⟨l', c', hplace', -, -, hstop⟩
  rw [hplace, Place.mk.injEq, Int.natCast_inj, Int.natCast_inj] at hplace'
  rcases hplace' with ⟨rfl, rfl⟩
  rwa [hlen] at hstop

end LineIndex

end CallLight
