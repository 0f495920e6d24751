import CallLight.Proofs.Position.Lines

/-!
# Line endings

A text whose lines end in line feeds can be written with another ending. Offsets move when that is
done, by as much as the endings before them have grown (`LineEnding.moved`), but lines and columns
stay: what had a place in the one text has the same place in the other
(`LineIndex.placeAt_write`).
-/

namespace CallLight

/-- The ways to end a line. -/
inductive LineEnding where
  | lf
  | crlf
  | cr
deriving DecidableEq, Repr

namespace LineEnding

def bytes : LineEnding → Text
  | .lf => [10]
  | .crlf => [13, 10]
  | .cr => [13]

/-- Writes a text with this ending in the place of each line feed. -/
def write (e : LineEnding) (t : Text) : Text :=
  t.flatMap fun b => if b = 10 then e.bytes else [b]

/-- Where offset `n` of a text is when the text is written with this ending. -/
def moved (e : LineEnding) : Text → Nat → Nat
  | _, 0 => 0
  | [], n + 1 => n + 1
  | b :: t, n + 1 => (if b = 10 then e.bytes.length else 1) + e.moved t n

variable (e : LineEnding)

theorem write_cons_lf (t : Text) : e.write (10 :: t) = e.bytes ++ e.write t := rfl

theorem write_cons {b : UInt8} (hb : b ≠ 10) (t : Text) : e.write (b :: t) = b :: e.write t := by
  rw [write, List.flatMap_cons, if_neg hb]
  rfl

theorem write_append (s t : Text) : e.write (s ++ t) = e.write s ++ e.write t :=
  List.flatMap_append

/-- Without line feeds there is nothing to change. -/
theorem write_of_not_mem {t : Text} (h : 10 ∉ t) : e.write t = t := by
  induction t with
  | nil => rfl
  | cons b t ih =>
    rw [List.mem_cons, not_or] at h
    rw [write_cons e (Ne.symm h.1), ih h.2]

/-! ## Offsets -/

@[simp] theorem moved_zero (t : Text) : e.moved t 0 = 0 := by
  cases t <;> rfl

@[simp] theorem moved_nil (n : Nat) : e.moved [] n = n := by
  cases n <;> rfl

theorem moved_lf_one (t : Text) : e.moved (10 :: t) 1 = e.bytes.length := by
  rw [moved, if_pos rfl, moved_zero, Nat.add_zero]

theorem moved_one {b : UInt8} (hb : b ≠ 10) (t : Text) : e.moved (b :: t) 1 = 1 := by
  rw [moved, if_neg hb, moved_zero]

/-- An ending has at least one byte, as the line feed had. -/
theorem bytes_length_pos : 0 < e.bytes.length := by
  cases e <;> decide

theorem moved_lt_moved (t : Text) {m n : Nat} (h : m < n) : e.moved t m < e.moved t n := by
  have hpos := e.bytes_length_pos
  induction t generalizing m n with
  | nil => simpa using h
  | cons b t ih =>
    obtain ⟨n, rfl⟩ := Nat.exists_eq_add_one_of_ne_zero (Nat.ne_zero_of_lt h)
    cases m with
    | zero =>
      simp only [moved]
      split <;> omega
    | succ m =>
      have := ih (Nat.lt_of_succ_lt_succ h)
      simp only [moved]
      omega

theorem moved_le_moved_iff (t : Text) {m n : Nat} : e.moved t m ≤ e.moved t n ↔ m ≤ n := by
  constructor
  · intro h
    by_contra hlt
    have := e.moved_lt_moved t (Nat.lt_of_not_le hlt)
    omega
  · intro h
    rcases Nat.eq_or_lt_of_le h with rfl | hlt
    · exact Nat.le_refl _
    · exact Nat.le_of_lt (e.moved_lt_moved t hlt)

theorem moved_inj (t : Text) {m n : Nat} : e.moved t m = e.moved t n ↔ m = n := by
  rw [Nat.le_antisymm_iff, moved_le_moved_iff, moved_le_moved_iff, Nat.le_antisymm_iff]

/-- No offset moves to the left. -/
theorem le_moved (t : Text) (n : Nat) : n ≤ e.moved t n := by
  induction n with
  | zero => exact Nat.zero_le _
  | succ n ih => exact Nat.lt_of_le_of_lt ih (e.moved_lt_moved t n.lt_succ_self)

theorem moved_add (t : Text) (m n : Nat) :
    e.moved t (m + n) = e.moved t m + e.moved (t.drop m) n := by
  induction m generalizing t with
  | zero => simp
  | succ m ih =>
    cases t with
    | nil => simp
    | cons b t =>
      rw [Nat.succ_add, moved, moved, ih, List.drop_succ_cons]
      omega

theorem moved_of_not_mem {t : Text} {n : Nat} (h : 10 ∉ t.take n) : e.moved t n = n := by
  induction n generalizing t with
  | zero => exact e.moved_zero t
  | succ n ih =>
    cases t with
    | nil => rfl
    | cons b t =>
      rw [List.take_succ_cons, List.mem_cons, not_or] at h
      rw [moved, if_neg (Ne.symm h.1), ih h.2, Nat.add_comm]

theorem moved_append (s t : Text) : e.moved (s ++ t) s.length = (e.write s).length := by
  induction s with
  | nil => exact e.moved_zero t
  | cons b s ih =>
    rw [List.cons_append, List.length_cons, moved, ih]
    by_cases hb : b = 10
    · rw [if_pos hb, hb, write_cons_lf, List.length_append]
    · rw [if_neg hb, write_cons e hb, List.length_cons, Nat.add_comm]

theorem moved_append_add (s t : Text) (n : Nat) :
    e.moved (s ++ t) (s.length + n) = (e.write s).length + e.moved t n := by
  rw [moved_add, moved_append, List.drop_left]

theorem length_write (t : Text) : (e.write t).length = e.moved t t.length := by
  have h := e.moved_append t []
  rwa [List.append_nil, eq_comm] at h

theorem moved_le_length_iff (t : Text) {n : Nat} :
    e.moved t n ≤ (e.write t).length ↔ n ≤ t.length := by
  rw [length_write, moved_le_moved_iff]

/-- What stands from an offset on stands from the moved offset on. -/
theorem drop_write (t : Text) (n : Nat) : (e.write t).drop (e.moved t n) = e.write (t.drop n) := by
  by_cases hn : n ≤ t.length
  · have hmoved := e.moved_append (t.take n) (t.drop n)
    rw [List.take_append_drop, List.length_take_of_le hn] at hmoved
    calc (e.write t).drop (e.moved t n)
        = (e.write (t.take n) ++ e.write (t.drop n)).drop (e.moved t n) := by
          rw [← write_append, List.take_append_drop]
      _ = e.write (t.drop n) := by rw [hmoved, List.drop_left]
  · have hlt : t.length < n := Nat.lt_of_not_le hn
    have hmoved := e.moved_lt_moved t hlt
    rw [← length_write] at hmoved
    rw [List.drop_eq_nil_of_le (Nat.le_of_lt hmoved), List.drop_eq_nil_of_le (Nat.le_of_lt hlt)]
    rfl

end LineEnding

/-! ## Lines -/

namespace LineBreaks

variable (e : LineEnding)

/-- A line does not show how it ends. -/
theorem firstLine_write (t : Text) : bytes.firstLine (e.write t) = bytes.firstLine t := by
  induction t with
  | nil => rfl
  | cons b t ih =>
    by_cases hb : b = 10
    · rw [hb, e.write_cons_lf, firstLine_cons_of_isBreak _ (by decide)]
      cases e <;> exact firstLine_cons_of_isBreak _ (by decide) _
    · rw [e.write_cons hb]
      cases hbreak : bytes.isBreak b with
      | true => rw [firstLine_cons_of_isBreak _ hbreak, firstLine_cons_of_isBreak _ hbreak]
      | false =>
        rw [firstLine_cons_of_not_isBreak _ hbreak, firstLine_cons_of_not_isBreak _ hbreak, ih]

/-- A carriage return that ends a line takes no line feed along: there is none left. -/
theorem dropLf_write_cr (t : Text) :
    bytes.dropLf (LineEnding.cr.write t) = LineEnding.cr.write t := by
  cases t with
  | nil => rfl
  | cons b t =>
    by_cases hb : b = 10
    · rw [hb]
      rfl
    · rw [LineEnding.write_cons _ hb]
      exact if_neg hb

theorem nextLine?_write {t : Text} (ht : 13 ∉ t) :
    bytes.nextLine? (e.write t) = (bytes.nextLine? t).map e.write := by
  induction t with
  | nil => rfl
  | cons b t ih =>
    rw [List.mem_cons, not_or] at ht
    by_cases hb : b = 10
    · rw [hb, e.write_cons_lf]
      cases e with
      | lf => rfl
      | crlf => rfl
      | cr => exact congrArg some (dropLf_write_cr t)
    · have hbreak : bytes.isBreak b = false := by
        simp only [isBreak, bytes, Bool.or_eq_false_iff, beq_eq_false_iff_ne]
        exact ⟨Ne.symm ht.1, hb⟩
      rw [e.write_cons hb, nextLine?_cons_of_not_isBreak _ hbreak,
        nextLine?_cons_of_not_isBreak _ hbreak, ih ht.2]

theorem fromLine?_write {t : Text} (ht : 13 ∉ t) (n : Nat) :
    bytes.fromLine? n (e.write t) = (bytes.fromLine? n t).map e.write := by
  induction n generalizing t with
  | zero => rfl
  | succ n ih =>
    rw [fromLine?, fromLine?, nextLine?_write e ht, Option.bind_map, Option.map_bind]
    refine Option.bind_congr fun r hr => ?_
    have hsuffix : r <:+ t := bytes.suffix_of_fromLine? (n := 1) (by simpa [fromLine?] using hr)
    exact ih fun hmem => ht (hsuffix.subset hmem)

end LineBreaks

/-- The line in the text with the other ending. -/
def Line.moved (e : LineEnding) (t : Text) (l : Line) : Line := ⟨e.moved t l.start, l.content⟩

namespace LineIndex

open LineBreaks

variable (e : LineEnding) {t : Text}

theorem linesFrom_write (ht : 13 ∉ t) :
    linesFrom 0 (e.write t) = (linesFrom 0 t).map (Line.moved e t) := by
  refine List.ext_getElem? fun n => ?_
  rw [List.getElem?_map, getElem?_linesFrom, getElem?_linesFrom, fromLine?_write e ht,
    Option.map_map, Option.map_map]
  refine Option.map_congr fun r hr => ?_
  rcases bytes.suffix_of_fromLine? hr with ⟨above, rfl⟩
  simp [Line.moved, e.write_append, e.moved_append, firstLine_write]

/-- On a line offsets move by the same, and behind its end they do not come back to it. -/
theorem min_moved_sub (above r : Text) (o : Nat) :
    min (e.moved (above ++ r) o - e.moved (above ++ r) above.length) (bytes.firstLine r).length =
      min (o - above.length) (bytes.firstLine r).length := by
  rcases Nat.lt_or_ge o above.length with hlt | hge
  · have := e.moved_lt_moved (above ++ r) hlt
    omega
  obtain ⟨k, rfl⟩ := Nat.exists_eq_add_of_le hge
  have hadd := e.moved_add (above ++ r) above.length k
  rw [List.drop_left] at hadd
  by_cases hk : k ≤ (bytes.firstLine r).length
  · have hfirst : r.take k <+: bytes.firstLine r :=
      List.prefix_of_prefix_length_le (List.take_prefix k r) (List.takeWhile_prefix _)
        (by rw [List.length_take]; omega)
    have hlf : 10 ∉ r.take k := fun hmem =>
      absurd (bytes.not_isBreak_of_mem_firstLine (hfirst.subset hmem)) (by decide)
    have := e.moved_of_not_mem hlf
    omega
  · have := e.le_moved r k
    omega

theorem column_moved {l : Line} (hl : l ∈ linesFrom 0 t) (o : Nat) :
    (l.moved e t).column (e.moved t o) = l.column o := by
  rcases List.mem_iff_getElem?.mp hl with ⟨n, hn⟩
  rw [getElem?_linesFrom, Option.map_eq_some_iff] at hn
  rcases hn with ⟨r, hr, rfl⟩
  rcases bytes.suffix_of_fromLine? hr with ⟨above, rfl⟩
  simp only [Line.column, Line.moved, Nat.zero_add, List.length_append, Nat.add_sub_cancel,
    min_moved_sub]

/-- As many lines start at or before an offset. -/
theorem length_takeWhile_write (ht : 13 ∉ t) (o : Nat) :
    ((linesFrom 0 (e.write t)).takeWhile (·.start ≤ e.moved t o)).length =
      ((linesFrom 0 t).takeWhile (·.start ≤ o)).length := by
  rw [linesFrom_write e ht, List.takeWhile_map, List.length_map]
  simp only [Function.comp_def, Line.moved, e.moved_le_moved_iff]

/-- Places stay. -/
theorem placeAt_write (ht : 13 ∉ t) (o : Nat) :
    (ofText (e.write t)).placeAt (e.moved t o) = (ofText t).placeAt o := by
  have hmin : min (e.moved t o) (e.write t).length = e.moved t (min o t.length) := by
    rw [e.length_write]
    rcases Nat.le_total o t.length with hle | hle
    · rw [Nat.min_eq_left hle, Nat.min_eq_left ((e.moved_le_moved_iff t).mpr hle)]
    · rw [Nat.min_eq_right hle, Nat.min_eq_right ((e.moved_le_moved_iff t).mpr hle)]
  unfold placeAt ofText
  dsimp only
  rw [Int.toNat_natCast, Int.toNat_natCast, hmin, length_takeWhile_write e ht,
    linesFrom_write e ht, List.getElem?_map]
  cases hl : (linesFrom 0 t)[((linesFrom 0 t).takeWhile (·.start ≤ min o t.length)).length - 1]? with
  | none => rfl
  | some l => simp only [Option.map_some, column_moved e (List.mem_of_getElem? hl)]

end LineIndex

end CallLight
