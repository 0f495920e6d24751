import Mathlib.Data.List.TakeWhile
import CallLight.Proofs.Text.Runes
import CallLight.Position

/-!
# Lines

A sequence of bytes, of UTF-16 units or of characters falls into lines in one way: a line ends at a
line feed, at a carriage return with a line feed, or at a carriage return alone. The functions here
cut any of the three. An encoding of characters that leaves the breaks alone carries lines to lines
(`BreakCode`), and the lines of a `LineIndex` are the ones that are cut here
(`getElem?_linesFrom`).
-/

namespace CallLight

/-- The two elements that end a line. -/
structure LineBreaks (α : Type) where
  cr : α
  lf : α

namespace LineBreaks

/-- The breaks of bytes. -/
def bytes : LineBreaks UInt8 := ⟨13, 10⟩

/-- The breaks of UTF-16 units. -/
def units : LineBreaks UInt16 := ⟨13, 10⟩

/-- The breaks of characters. -/
def chars : LineBreaks Char := ⟨'\r', '\n'⟩

variable {α : Type} [DecidableEq α] (k : LineBreaks α)

def isBreak (x : α) : Bool := x == k.cr || x == k.lf

/-- The first line, without its break. -/
def firstLine (s : List α) : List α := s.takeWhile fun x => !k.isBreak x

/-- Drops a line feed that belongs to the carriage return before it. -/
def dropLf : List α → List α
  | [] => []
  | x :: rest => if x = k.lf then rest else x :: rest

/-- What follows the first break; nothing when there is none. -/
def nextLine? : List α → Option (List α)
  | [] => none
  | x :: rest =>
    if x = k.lf then some rest
    else if x = k.cr then some (k.dropLf rest)
    else nextLine? rest

/-- What stands from line `n` on; nothing when there is no such line. -/
def fromLine? : Nat → List α → Option (List α)
  | 0, s => some s
  | n + 1, s => (k.nextLine? s).bind (fromLine? n)

/-! ## Cutting -/

theorem isBreak_iff {x : α} : k.isBreak x = true ↔ x = k.cr ∨ x = k.lf := by
  simp [isBreak]

theorem firstLine_cons_of_isBreak {x : α} (h : k.isBreak x = true) (s : List α) :
    k.firstLine (x :: s) = [] := by
  simp [firstLine, h]

theorem firstLine_cons_of_not_isBreak {x : α} (h : k.isBreak x = false) (s : List α) :
    k.firstLine (x :: s) = x :: k.firstLine s := by
  simp [firstLine, h]

theorem nextLine?_cons_of_not_isBreak {x : α} (h : k.isBreak x = false) (s : List α) :
    k.nextLine? (x :: s) = k.nextLine? s := by
  simp only [isBreak, Bool.or_eq_false_iff, beq_eq_false_iff_ne, ne_eq] at h
  rw [nextLine?, if_neg h.2, if_neg h.1]

theorem not_isBreak_of_mem_firstLine {s : List α} {x : α} (h : x ∈ k.firstLine s) :
    k.isBreak x = false := by
  simpa using List.mem_takeWhile_imp h

/-- A text without a break is its own first line. -/
theorem firstLine_eq_self_of_nextLine?_eq_none {s : List α} (h : k.nextLine? s = none) :
    k.firstLine s = s := by
  induction s with
  | nil => rfl
  | cons x s ih =>
    unfold nextLine? at h
    split_ifs at h with hlf hcr
    have hx : k.isBreak x = false := by simp [isBreak, hlf, hcr]
    rw [firstLine_cons_of_not_isBreak k hx, ih h]

/-- A line ends in one of three ways. -/
theorem exists_break_of_nextLine?_eq_some {s r : List α} (h : k.nextLine? s = some r) :
    ∃ brk, s = k.firstLine s ++ brk ++ r ∧
      (brk = [k.lf] ∨ brk = [k.cr] ∨ brk = [k.cr, k.lf]) := by
  induction s with
  | nil => simp [nextLine?] at h
  | cons x s ih =>
    unfold nextLine? at h
    split_ifs at h with hlf hcr
    · -- a line feed is a break by itself
      obtain rfl := Option.some.inj h
      have hx : k.isBreak x = true := k.isBreak_iff.mpr (.inr hlf)
      exact ⟨[x], by simp [firstLine_cons_of_isBreak k hx], .inl (by rw [hlf])⟩
    · -- a carriage return takes a line feed after it along
      have hx : k.isBreak x = true := k.isBreak_iff.mpr (.inl hcr)
      rw [firstLine_cons_of_isBreak k hx]
      rcases s with _ | ⟨y, s⟩
      · obtain rfl := Option.some.inj h
        exact ⟨[x], by simp [dropLf], .inr (.inl (by rw [hcr]))⟩
      · by_cases hy : y = k.lf
        · simp only [dropLf, if_pos hy, Option.some.injEq] at h
          subst h
          exact ⟨[x, y], by simp, .inr (.inr (by rw [hcr, hy]))⟩
        · simp only [dropLf, if_neg hy, Option.some.injEq] at h
          subst h
          exact ⟨[x], by simp, .inr (.inl (by rw [hcr]))⟩
    · have hx : k.isBreak x = false := by simp [isBreak, hlf, hcr]
      rcases ih h with ⟨brk, hs, hbrk⟩
      refine ⟨brk, ?_, hbrk⟩
      rw [firstLine_cons_of_not_isBreak k hx, List.cons_append, List.cons_append, ← hs]

/-- A text with a break is its first line, the break, and what follows. -/
theorem eq_append_of_nextLine?_eq_some {s r : List α} (h : k.nextLine? s = some r) :
    ∃ brk, s = k.firstLine s ++ brk ++ r ∧ brk ≠ [] ∧ ∀ x ∈ brk, k.isBreak x = true := by
  rcases k.exists_break_of_nextLine?_eq_some h with ⟨brk, hs, hbrk⟩
  refine ⟨brk, hs, ?_⟩
  rcases hbrk with rfl | rfl | rfl <;> simp [isBreak]

theorem length_lt_of_nextLine?_eq_some {s r : List α} (h : k.nextLine? s = some r) :
    (k.firstLine s).length + r.length < s.length := by
  rcases k.eq_append_of_nextLine?_eq_some h with ⟨brk, hs, hne, -⟩
  have hpos := List.length_pos_iff.mpr hne
  have hlen := congrArg List.length hs
  simp only [List.length_append] at hlen
  omega

theorem length_firstLine_le (s : List α) : (k.firstLine s).length ≤ s.length :=
  (List.takeWhile_sublist _).length_le

/-- The lines from line `n` on are a part of the text at its end. -/
theorem suffix_of_fromLine? {n : Nat} {s r : List α} (h : k.fromLine? n s = some r) : r <:+ s := by
  induction n generalizing s with
  | zero =>
    obtain rfl := Option.some.inj h
    exact List.suffix_refl s
  | succ n ih =>
    rcases Option.bind_eq_some_iff.mp h with ⟨s', hs', hr⟩
    rcases k.eq_append_of_nextLine?_eq_some hs' with ⟨brk, hs, -, -⟩
    rw [hs]
    exact (ih hr).trans (List.suffix_append _ _)

theorem fromLine?_add (m n : Nat) (s : List α) :
    k.fromLine? (m + n) s = (k.fromLine? m s).bind (k.fromLine? n) := by
  induction m generalizing s with
  | zero => simp [fromLine?]
  | succ m ih =>
    rw [Nat.succ_add]
    simp only [fromLine?, Option.bind_assoc]
    exact Option.bind_congr fun r _ => ih r

/-- A later line starts after the end of an earlier one. -/
theorem length_lt_of_fromLine? {m n : Nat} (hmn : m < n) {s r r' : List α}
    (hm : k.fromLine? m s = some r) (hn : k.fromLine? n s = some r') :
    (k.firstLine r).length + r'.length < r.length := by
  rcases Nat.exists_eq_add_of_lt hmn with ⟨d, rfl⟩
  rw [Nat.add_assoc, fromLine?_add, hm, Option.bind_some, Nat.add_comm d 1, fromLine?_add,
    Option.bind_eq_some_iff] at hn
  rcases hn with ⟨u, hu, hr'⟩
  -- the line after `m` is at or above `n`
  have hnext : k.nextLine? r = some u := by simpa [fromLine?] using hu
  have hlt := k.length_lt_of_nextLine?_eq_some hnext
  have hle := (k.suffix_of_fromLine? hr').length_le
  omega

/-- Each line takes at least its break. -/
theorem add_length_le_of_fromLine? {n : Nat} {s r : List α} (h : k.fromLine? n s = some r) :
    n + r.length ≤ s.length := by
  induction n generalizing s with
  | zero =>
    obtain rfl := Option.some.inj h
    omega
  | succ n ih =>
    rcases Option.bind_eq_some_iff.mp h with ⟨u, hu, hr⟩
    have hlt := k.length_lt_of_nextLine?_eq_some hu
    have := ih hr
    omega

theorem firstLine_append_of_not_isBreak {s : List α} (hs : ∀ x ∈ s, k.isBreak x = false)
    (t : List α) : k.firstLine (s ++ t) = s ++ k.firstLine t :=
  List.takeWhile_append_of_pos fun x hx => by simp [hs x hx]

/-! ## Encodings -/

/-- An encoding of characters that keeps the two breaks and makes no others. -/
structure BreakCode (e : Char → List α) : Prop where
  cr : e '\r' = [k.cr]
  lf : e '\n' = [k.lf]
  ne_nil : ∀ c, e c ≠ []
  not_isBreak : ∀ c, chars.isBreak c = false → ∀ x ∈ e c, k.isBreak x = false

namespace BreakCode

variable {k} {e : Char → List α}

theorem firstLine_flatMap (h : k.BreakCode e) (cs : List Char) :
    k.firstLine (cs.flatMap e) = (chars.firstLine cs).flatMap e := by
  induction cs with
  | nil => rfl
  | cons c cs ih =>
    rw [List.flatMap_cons]
    by_cases hc : chars.isBreak c = true
    · rw [firstLine_cons_of_isBreak _ hc, List.flatMap_nil]
      rcases chars.isBreak_iff.mp hc with rfl | rfl
      · rw [show e chars.cr = [k.cr] from h.cr]
        exact k.firstLine_cons_of_isBreak (k.isBreak_iff.mpr (.inl rfl)) _
      · rw [show e chars.lf = [k.lf] from h.lf]
        exact k.firstLine_cons_of_isBreak (k.isBreak_iff.mpr (.inr rfl)) _
    · rw [Bool.not_eq_true] at hc
      rw [firstLine_cons_of_not_isBreak _ hc, List.flatMap_cons, ← ih,
        k.firstLine_append_of_not_isBreak (h.not_isBreak c hc)]

theorem dropLf_flatMap (h : k.BreakCode e) (hk : k.cr ≠ k.lf) (cs : List Char) :
    k.dropLf (cs.flatMap e) = (chars.dropLf cs).flatMap e := by
  rcases cs with _ | ⟨c, cs⟩
  · rfl
  rw [List.flatMap_cons]
  by_cases hlf : c = chars.lf
  · rw [hlf, show e chars.lf = [k.lf] from h.lf]
    simp [dropLf]
  · rcases List.exists_cons_of_ne_nil (h.ne_nil c) with ⟨x, tl, hx⟩
    -- no other code starts with a line feed
    have hx' : x ≠ k.lf := by
      by_cases hcr : c = chars.cr
      · rw [hcr, show e chars.cr = [k.cr] from h.cr] at hx
        rw [← (List.cons.inj hx).1]
        exact hk
      · have hc : chars.isBreak c = false := by simp [isBreak, hcr, hlf]
        have := h.not_isBreak c hc x (by simp [hx])
        simp only [isBreak, Bool.or_eq_false_iff, beq_eq_false_iff_ne, ne_eq] at this
        exact this.2
    rw [dropLf, if_neg hlf, List.flatMap_cons, hx, List.cons_append, dropLf, if_neg hx']

theorem nextLine?_append_of_not_isBreak {s : List α} (hs : ∀ x ∈ s, k.isBreak x = false)
    (t : List α) : k.nextLine? (s ++ t) = k.nextLine? t := by
  induction s with
  | nil => rfl
  | cons x s ih =>
    rw [List.cons_append, nextLine?_cons_of_not_isBreak k (hs x (by simp)),
      ih fun y hy => hs y (by simp [hy])]

theorem nextLine?_flatMap (h : k.BreakCode e) (hk : k.cr ≠ k.lf) (cs : List Char) :
    k.nextLine? (cs.flatMap e) = (chars.nextLine? cs).map (·.flatMap e) := by
  induction cs with
  | nil => rfl
  | cons c cs ih =>
    rw [List.flatMap_cons]
    by_cases hlf : c = chars.lf
    · rw [hlf, show e chars.lf = [k.lf] from h.lf]
      simp [nextLine?]
    by_cases hcr : c = chars.cr
    · rw [hcr, show e chars.cr = [k.cr] from h.cr]
      have hcl : chars.cr ≠ chars.lf := by decide
      -- whether a line feed belongs to the break is decided by the next character, on both sides
      simp only [nextLine?, List.cons_append, List.nil_append, if_neg hk, if_neg hcl, if_pos,
        Option.map_some, h.dropLf_flatMap hk]
    · have hc : chars.isBreak c = false := by simp [isBreak, hcr, hlf]
      rw [nextLine?_append_of_not_isBreak (h.not_isBreak c hc), ih,
        nextLine?_cons_of_not_isBreak _ hc]

/-- The lines of an encoded text are the encoded lines of the text. -/
theorem fromLine?_flatMap (h : k.BreakCode e) (hk : k.cr ≠ k.lf) (n : Nat) (cs : List Char) :
    k.fromLine? n (cs.flatMap e) = (chars.fromLine? n cs).map (·.flatMap e) := by
  induction n generalizing cs with
  | zero => rfl
  | succ n ih =>
    rw [fromLine?, fromLine?, h.nextLine?_flatMap hk, Option.bind_map, Option.map_bind]
    exact Option.bind_congr fun r _ => ih r

end BreakCode

end LineBreaks

/-- UTF-8 leaves line breaks alone. -/
theorem utf8_breakCode : LineBreaks.bytes.BreakCode String.utf8EncodeChar where
  cr := by decide
  lf := by decide
  ne_nil := fun _ => String.utf8EncodeChar_ne_nil
  not_isBreak := by
    intro c hc x hx
    simp only [LineBreaks.isBreak, LineBreaks.chars, LineBreaks.bytes, Bool.or_eq_false_iff,
      beq_eq_false_iff_ne, ne_eq, ← Char.toNat_inj, ← UInt8.toNat_inj] at hc ⊢
    -- ASCII is its own code, and no byte of another character is ASCII
    by_cases hlt : c.toNat < 128
    · rw [Text.encode_of_lt hlt, List.mem_singleton] at hx
      rw [hx, UInt8.toNat_ofNat']
      simp at hc ⊢
      omega
    · have := Text.le_of_mem_encode (by omega) hx
      simp
      omega

theorem LineBreaks.firstLine_ofChars (cs : List Char) :
    bytes.firstLine (Text.ofChars cs) = Text.ofChars (chars.firstLine cs) := by
  rw [Text.ofChars_eq_flatMap, utf8_breakCode.firstLine_flatMap, Text.ofChars_eq_flatMap]

theorem LineBreaks.nextLine?_ofChars (cs : List Char) :
    bytes.nextLine? (Text.ofChars cs) = (chars.nextLine? cs).map Text.ofChars := by
  rw [Text.ofChars_eq_flatMap, utf8_breakCode.nextLine?_flatMap (by decide)]
  exact Option.map_congr fun r _ => (Text.ofChars_eq_flatMap r).symm

theorem LineBreaks.fromLine?_ofChars (n : Nat) (cs : List Char) :
    bytes.fromLine? n (Text.ofChars cs) = (chars.fromLine? n cs).map Text.ofChars := by
  rw [Text.ofChars_eq_flatMap, utf8_breakCode.fromLine?_flatMap (by decide)]
  exact Option.map_congr fun r _ => (Text.ofChars_eq_flatMap r).symm

/-! ## The lines of an index -/

open LineBreaks in
theorem splitLine_eq (t : Text) : splitLine t = (bytes.firstLine t,
    (bytes.nextLine? t).map fun r => (t.length - r.length - (bytes.firstLine t).length, r)) := by
  induction t with
  | nil => rfl
  | cons b t ih =>
    unfold splitLine
    by_cases hlf : b = 10
    · have hb : bytes.isBreak b = true := bytes.isBreak_iff.mpr (.inr hlf)
      rw [if_pos hlf, firstLine_cons_of_isBreak _ hb]
      simp [nextLine?, bytes, hlf]
    by_cases hcr : b = 13
    · have hb : bytes.isBreak b = true := bytes.isBreak_iff.mpr (.inl hcr)
      rw [if_neg hlf, if_pos hcr, firstLine_cons_of_isBreak _ hb]
      -- with a line feed after it, or without
      split
      next t' =>
        simp [nextLine?, dropLf, bytes, hcr]
        omega
      next hne =>
        rcases t with _ | ⟨d, t⟩
        · simp [nextLine?, dropLf, bytes, hcr]
        · have hd : d ≠ 10 := fun hd => hne t (by rw [hd])
          simp [nextLine?, dropLf, bytes, hcr, hd]
    · have hb : bytes.isBreak b = false := by simp [isBreak, bytes, hlf, hcr]
      rw [if_neg hlf, if_neg hcr, ih, firstLine_cons_of_not_isBreak _ hb,
        nextLine?_cons_of_not_isBreak _ hb]
      simp only [Prod.mk.injEq, true_and]
      refine Option.map_congr fun r hr => ?_
      have := bytes.length_lt_of_nextLine?_eq_some hr
      simp only [List.length_cons, Prod.mk.injEq, and_true]
      omega

open LineBreaks in
theorem linesFrom_eq (start : Nat) (t : Text) : linesFrom start t =
    ⟨start, bytes.firstLine t⟩ ::
      ((bytes.nextLine? t).map fun r => linesFrom (start + (t.length - r.length)) r).getD [] := by
  rw [linesFrom]
  split
  next content h =>
    rw [splitLine_eq, Prod.mk.injEq, Option.map_eq_none_iff] at h
    simp [← h.1, h.2]
  next content w rest h =>
    rw [splitLine_eq, Prod.mk.injEq, Option.map_eq_some_iff] at h
    rcases h with ⟨hcontent, r, hr, hw⟩
    rcases Prod.mk.inj hw with ⟨rfl, rfl⟩
    have := bytes.length_lt_of_nextLine?_eq_some hr
    simp only [← hcontent, hr, Option.map_some, Option.getD_some, List.cons.injEq, true_and]
    congr 1
    omega

open LineBreaks in
/-- Line `n` of an index, found by cutting the text. -/
theorem getElem?_linesFrom (start n : Nat) (t : Text) : (linesFrom start t)[n]? =
    (bytes.fromLine? n t).map fun r => ⟨start + (t.length - r.length), bytes.firstLine r⟩ := by
  induction n generalizing start t with
  | zero =>
    rw [linesFrom_eq]
    simp [fromLine?]
  | succ n ih =>
    rw [linesFrom_eq, List.getElem?_cons_succ, fromLine?]
    rcases hnext : bytes.nextLine? t with _ | r
    · rfl
    · rw [Option.map_some, Option.getD_some, ih, Option.bind_some]
      refine Option.map_congr fun r' hr' => ?_
      have hlt := bytes.length_lt_of_nextLine?_eq_some hnext
      have hle := (bytes.suffix_of_fromLine? hr').length_le
      simp only [Line.mk.injEq, and_true]
      omega

end CallLight
