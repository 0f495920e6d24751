import CallLight.Proofs.Position.Offsets

/-!
# Where offsets of places fall

An editor may name any line and any column. In a well-formed text the offset of such a place stands
between two characters, and never between a carriage return and the line feed that belongs to it
(`LineIndex.exists_offsetAt`): a line starts behind a whole break, and a walk on a line passes whole
characters, none of which is a break.
-/

namespace CallLight

namespace LineBreaks

variable {α : Type} (k : LineBreaks α)

/-- A cut falls between a carriage return and a line feed. -/
def Splits (before after : List α) : Prop :=
  before.getLast? = some k.cr ∧ after.head? = some k.lf

theorem not_splits_nil (after : List α) : ¬ k.Splits [] after := by
  rintro ⟨hlast, -⟩
  cases hlast

theorem splits_append_of_ne_nil {above before after : List α} (h : before ≠ []) :
    k.Splits (above ++ before) after ↔ k.Splits before after := by
  rcases List.exists_cons_of_ne_nil h with ⟨x, before', rfl⟩
  simp [Splits, List.getLast?_append]

/-- A cut behind something that is no carriage return. -/
theorem not_splits_of_getLast? {before after : List α} {x : α} (hlast : before.getLast? = some x)
    (hx : x ≠ k.cr) : ¬ k.Splits before after := by
  rintro ⟨hcr, -⟩
  exact hx (Option.some.inj (hlast.symm.trans hcr))

variable [DecidableEq α]

theorem not_splits_of_dropLf (hk : k.cr ≠ k.lf) {before after : List α}
    (h : k.dropLf (before ++ after) = after) : ¬ k.Splits (k.cr :: before) after := by
  rcases before with _ | ⟨y, before⟩
  · -- no line feed was dropped, so there was none
    rintro ⟨-, hhead⟩
    rcases after with _ | ⟨z, after⟩
    · cases hhead
    · obtain rfl : z = k.lf := Option.some.inj hhead
      simp [dropLf] at h
  · by_cases hy : y = k.lf
    · -- the line feed was dropped and stands before the cut
      have hnil : before = [] := by simpa [dropLf, hy] using h
      rw [hnil, hy]
      exact k.not_splits_of_getLast? rfl hk.symm
    · have hlen := congrArg List.length h
      simp [dropLf, hy] at hlen
      omega

/-- The line after the first one does not start inside a break. -/
theorem not_splits_of_nextLine? (hk : k.cr ≠ k.lf) {before after : List α}
    (h : k.nextLine? (before ++ after) = some after) : ¬ k.Splits before after := by
  induction before with
  | nil => exact k.not_splits_nil after
  | cons x before ih =>
    rw [List.cons_append, nextLine?] at h
    split_ifs at h with hlf hcr
    · have hnil : before = [] := by simpa using h
      rw [hnil]
      refine k.not_splits_of_getLast? rfl ?_
      rw [hlf]
      exact hk.symm
    · rw [hcr]
      exact k.not_splits_of_dropLf hk (Option.some.inj h)
    · -- the break is further on
      have hne : before ≠ [] := by
        rintro rfl
        have := k.length_lt_of_nextLine?_eq_some h
        rw [List.nil_append] at this
        omega
      have happend : k.Splits ([x] ++ before) after ↔ k.Splits before after :=
        k.splits_append_of_ne_nil hne
      rw [← List.singleton_append, happend]
      exact ih h

/-- No line starts inside a break. -/
theorem not_splits_of_fromLine? (hk : k.cr ≠ k.lf) {n : Nat} {before after : List α}
    (h : k.fromLine? n (before ++ after) = some after) : ¬ k.Splits before after := by
  induction n generalizing before with
  | zero =>
    have hnil : before = [] := by simpa [fromLine?] using h
    rw [hnil]
    exact k.not_splits_nil after
  | succ n ih =>
    rcases Option.bind_eq_some_iff.mp h with ⟨s, hs, hafter⟩
    rcases k.suffix_of_fromLine? hafter with ⟨above, rfl⟩
    obtain ⟨first, hfirst⟩ : above ++ after <:+ before ++ after :=
      k.suffix_of_fromLine? (n := 1) (by simpa [fromLine?] using hs)
    obtain rfl : first ++ above = before := by
      rw [← List.append_assoc] at hfirst
      exact List.append_cancel_right hfirst
    -- the cut is the one behind the first line, or further down
    by_cases hnil : above = []
    · subst hnil
      rw [List.append_nil] at hs ⊢
      exact k.not_splits_of_nextLine? hk hs
    · rw [k.splits_append_of_ne_nil hnil]
      exact ih hafter

end LineBreaks

/-- A walk over characters passes whole ones, and enough of them unless they run out. -/
theorem exists_advance (cs : List Char) (c : Int) : ∃ passed rest, cs = passed ++ rest ∧
    advance (cs.map Rune.ofChar) c = (Text.ofChars passed).length ∧
    (c ≤ (Text.ofChars passed).units ∨ rest = []) := by
  induction cs generalizing c with
  | nil => exact ⟨[], [], rfl, rfl, .inr rfl⟩
  | cons d cs ih =>
    rw [List.map_cons, advance]
    split
    case isTrue =>
      rcases ih (c - (Rune.ofChar d).units) with ⟨passed, rest, rfl, hadvance, henough⟩
      refine ⟨d :: passed, rest, rfl, ?_, ?_⟩
      · rw [hadvance, Text.ofChars_cons, List.length_append, String.length_utf8EncodeChar]
        rfl
      · refine henough.imp_left fun hle => ?_
        rw [Text.ofChars_cons, Text.units_eq, Text.runes_encode_append, Rune.sumUnits_cons,
          ← Text.units_eq]
        omega
    case isFalse hc =>
      exact ⟨[], d :: cs, rfl, rfl, .inl (by omega)⟩

open LineBreaks in
/-- The offset of a place stands between two characters, and not inside a line break. -/
theorem LineIndex.exists_offsetAt (cs : List Char) (p : Place) : ∃ before after,
    cs = before ++ after ∧ (ofText (Text.ofChars cs)).offsetAt p = (Text.ofChars before).length ∧
    ¬ chars.Splits before after := by
  by_cases hline : p.line < 0
  · exact ⟨[], cs, rfl, offsetAt_of_line_neg hline _, chars.not_splits_nil cs⟩
  rw [Int.not_lt] at hline
  have hbytes := fromLine?_ofChars p.line.toNat cs
  rcases hfrom : chars.fromLine? p.line.toNat cs with _ | r
  · -- below the text
    rw [hfrom] at hbytes
    refine ⟨cs, [], (List.append_nil cs).symm, offsetAt_of_fromLine?_eq_none hline hbytes, ?_⟩
    rintro ⟨-, hhead⟩
    cases hhead
  · rw [hfrom, Option.map_some] at hbytes
    rcases chars.suffix_of_fromLine? hfrom with ⟨above, rfl⟩
    obtain ⟨after, hafter⟩ : chars.firstLine r <+: r := List.takeWhile_prefix _
    rcases exists_advance (chars.firstLine r) p.character with
      ⟨passed, rest, hpassed, hadvance, -⟩
    have hr : r = passed ++ (rest ++ after) := by
      rw [← hafter, hpassed, List.append_assoc]
    refine ⟨above ++ passed, rest ++ after, by rw [hr, List.append_assoc], ?_, ?_⟩
    · rw [offsetAt_of_fromLine? hline hbytes, firstLine_ofChars, Text.runes_ofChars, hadvance]
      simp only [Text.ofChars_append, List.length_append]
      omega
    · by_cases hnil : passed = []
      · -- at the start of the line
        have hstart := chars.not_splits_of_fromLine? (by decide) hfrom
        rw [hr] at hstart
        rw [hnil] at hstart ⊢
        rwa [List.append_nil]
      · -- on the line, where no character is a break
        rw [chars.splits_append_of_ne_nil hnil]
        rintro ⟨hlast, -⟩
        have hmem : chars.cr ∈ chars.firstLine r := by
          rw [hpassed]
          exact List.mem_append_left _ (List.mem_of_getLast? hlast)
        exact absurd (chars.not_isBreak_of_mem_firstLine hmem) (by decide)

end CallLight
