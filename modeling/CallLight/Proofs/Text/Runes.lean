import CallLight.Proofs.Text.Utf8

/-!
# Characters of a text

A text falls apart into characters and stray bytes, and `rune_induction` follows that. Cut before a
byte that is no tail, or after well-formed text, a text has the characters of its two parts
(`runes_append_of_head`, `runes_ofChars_append`). Well-formed texts are the ones that the encoder
writes (`isValid_iff`). Last stands what is left of a text without its lead (`trimLead_append`).
-/

namespace CallLight

open String (utf8EncodeChar)

theorem Rune.ofChar_ne_invalid (c : Char) : Rune.ofChar c ≠ .invalid := by
  intro h
  simp only [Rune.ofChar, Rune.invalid, Rune.mk.injEq, Text.utf8Size_eq_ite] at h
  rcases h with ⟨hcode, hwidth⟩
  simp [hcode] at hwidth

theorem Rune.ofChar_isInvalid (c : Char) : (Rune.ofChar c).isInvalid = false := by
  have h := Rune.ofChar_ne_invalid c
  simp only [Rune.ofChar, Rune.invalid, ne_eq, Rune.mk.injEq] at h
  simpa [Rune.isInvalid, Rune.ofChar] using h

theorem Rune.units_pos (r : Rune) : 0 < r.units := by
  unfold Rune.units
  split <;> omega

/-- The UTF-16 units of characters. -/
def Rune.sumUnits (rs : List Rune) : Nat := rs.foldr (fun r n => r.units + n) 0

/-- The bytes of characters. -/
def Rune.sumWidths (rs : List Rune) : Nat := rs.foldr (fun r n => r.width + n) 0

@[simp] theorem Rune.sumUnits_nil : sumUnits [] = 0 := rfl

@[simp] theorem Rune.sumWidths_nil : sumWidths [] = 0 := rfl

@[simp] theorem Rune.sumUnits_cons (r : Rune) (rs : List Rune) :
    sumUnits (r :: rs) = r.units + sumUnits rs := rfl

@[simp] theorem Rune.sumWidths_cons (r : Rune) (rs : List Rune) :
    sumWidths (r :: rs) = r.width + sumWidths rs := rfl

namespace Text

theorem units_eq (t : Text) : t.units = Rune.sumUnits t.runes := rfl

/-! ## The bytes of a character -/

/-- The first byte of a character is no tail, and the others are. -/
theorem encode_eq_cons (c : Char) :
    ∃ a tl, utf8EncodeChar c = a :: tl ∧ isTail a = false ∧ ∀ b ∈ tl, isTail b = true := by
  have hc : c.toNat < 0xD800 ∨ 0xDFFF < c.toNat ∧ c.toNat < 0x110000 := c.valid
  rw [utf8EncodeChar_eq_ite]
  -- one case for each width, and in each the range of every byte
  split_ifs <;> refine ⟨_, _, rfl, ?_, ?_⟩ <;>
    simp only [← Bool.not_eq_true, List.mem_cons, List.not_mem_nil, or_false, forall_eq_or_imp,
      forall_eq, false_imp_iff, implies_true, isTail_iff, UInt8.toNat_ofNat'] <;>
    omega

theorem encode_of_lt {c : Char} (h : c.toNat < 128) : utf8EncodeChar c = [.ofNat c.toNat] := by
  rw [utf8EncodeChar_eq_ite, if_pos (by omega)]

/-- Beyond ASCII every byte of a character is at least 128. -/
theorem le_of_mem_encode {c : Char} (h : 128 ≤ c.toNat) {b : UInt8}
    (hb : b ∈ utf8EncodeChar c) : 128 ≤ b.toNat := by
  rw [utf8EncodeChar_eq_ite, if_neg (by omega)] at hb
  split_ifs at hb <;>
    simp only [List.mem_cons, List.not_mem_nil, or_false] at hb <;>
    rcases hb with rfl | rfl | rfl | rfl <;>
    rw [UInt8.toNat_ofNat'] <;> omega

/-! ## Reading on -/

/-- A character at the front of a text is read, and leaves what follows it. -/
theorem encode_append_eq_cons (c : Char) (t : Text) : ∃ a rest, utf8EncodeChar c ++ t = a :: rest ∧
    decode a rest = Rune.ofChar c ∧ rest.drop (c.utf8Size - 1) = t := by
  rcases encode_eq_cons c with ⟨a, tl, hc, -, -⟩
  have hlen := congrArg List.length hc
  simp only [String.length_utf8EncodeChar, List.length_cons] at hlen
  refine ⟨a, tl ++ t, by rw [hc, List.cons_append], decode_encode (t := t) ?_, ?_⟩
  · rw [hc, List.cons_append]
  · rw [hlen, Nat.add_sub_cancel, List.drop_left]

theorem runes_encode_append (c : Char) (t : Text) :
    runes (utf8EncodeChar c ++ t) = Rune.ofChar c :: runes t := by
  rcases encode_append_eq_cons c t with ⟨a, rest, happend, hdec, hdrop⟩
  rw [happend, runes, hdec]
  simp only [Rune.ofChar, hdrop]

theorem runes_stray {a : UInt8} {t : Text} (h : decode a t = .invalid) :
    runes (a :: t) = .invalid :: runes t := by
  rw [runes, h]
  rfl

/-- Induction along the characters of a text. -/
@[elab_as_elim]
theorem rune_induction {motive : Text → Prop} (t : Text) (nil : motive [])
    (char : ∀ c t, motive t → motive (utf8EncodeChar c ++ t))
    (stray : ∀ a t, decode a t = .invalid → motive t → motive (a :: t)) : motive t := by
  -- on the length of the text: each character takes at least one byte
  induction hn : t.length using Nat.strongRecOn generalizing t with
  | ind n ih =>
    rcases t with _ | ⟨a, rest⟩
    · exact nil
    rcases decode_cases a rest with h | ⟨c, t, h⟩
    · exact stray a rest h (ih rest.length (by simp [← hn]) rest rfl)
    · rw [h] at hn ⊢
      refine char c t (ih t.length ?_ t rfl)
      have := c.utf8Size_pos
      simp only [List.length_append, String.length_utf8EncodeChar] at hn
      omega

theorem sumWidths_runes (t : Text) : Rune.sumWidths t.runes = t.length := by
  induction t using rune_induction with
  | nil => simp [runes]
  | char c t ih => simp [runes_encode_append, ih, Rune.ofChar]
  | stray a t h ih =>
    rw [runes_stray h]
    simp only [Rune.sumWidths_cons, ih, List.length_cons, Rune.invalid]
    omega

/-- A text has at most as many UTF-16 units as bytes. -/
theorem units_le_length (t : Text) : t.units ≤ t.length := by
  -- two units only for a character of four bytes
  have hchar : ∀ c : Char, (Rune.ofChar c).units ≤ c.utf8Size := by
    intro c
    rw [utf8Size_eq_ite]
    change (if c.toNat < 0x10000 then 1 else 2) ≤ _
    split_ifs <;> omega
  induction t using rune_induction with
  | nil => simp [units_eq, runes]
  | char c t ih =>
    have := hchar c
    simp only [units_eq, runes_encode_append, Rune.sumUnits_cons, List.length_append,
      String.length_utf8EncodeChar] at ih ⊢
    omega
  | stray a t h ih =>
    have : Rune.invalid.units = 1 := rfl
    simp only [units_eq, runes_stray h, Rune.sumUnits_cons, List.length_cons] at ih ⊢
    omega

theorem runes_ascii_cons {a : UInt8} (ha : a.toNat < 128) (t : Text) :
    runes (a :: t) = ⟨a.toNat, 1⟩ :: runes t := by
  rw [runes, decode_one ha]
  rfl

/-- ASCII reads the same in front of any bytes. -/
theorem runes_ascii_append {w : Text} (hw : ∀ b ∈ w, b.toNat < 128) (t : Text) :
    runes (w ++ t) = runes w ++ runes t := by
  induction w with
  | nil => simp [runes]
  | cons a w ih =>
    have ha : a.toNat < 128 := hw a (by simp)
    rw [List.cons_append, runes_ascii_cons ha, runes_ascii_cons ha, List.cons_append,
      ih fun b hb => hw b (by simp [hb])]

theorem units_ascii {w : Text} (hw : ∀ b ∈ w, b.toNat < 128) : units w = w.length := by
  induction w with
  | nil => simp [units_eq, runes]
  | cons a w ih =>
    have ha : a.toNat < 128 := hw a (by simp)
    have hunits : Rune.units ⟨a.toNat, 1⟩ = 1 := if_pos (show a.toNat < 0x10000 by omega)
    rw [units_eq, runes_ascii_cons ha, Rune.sumUnits_cons, hunits, ← units_eq,
      ih fun b hb => hw b (by simp [hb]), List.length_cons, Nat.add_comm]

/-- What follows a cut before no tail has no part in reading the character before the cut. -/
theorem decode_append_of_head {s : Text} (hs : ∀ b ∈ s.head?, isTail b = false) (a : UInt8)
    (t : Text) : decode a (t ++ s) = decode a t := by
  rcases decode_cases a t with h | ⟨c, t', h⟩
  · rcases decode_cases a (t ++ s) with h' | ⟨c, t', h'⟩
    · rw [h, h']
    -- a character that is longer than the text before the cut would have a tail after it
    rw [← List.cons_append, List.append_eq_append_iff] at h'
    rcases h' with ⟨u, hu, hs'⟩ | ⟨u, hu, -⟩
    · rcases u with _ | ⟨b, u⟩
      · rw [List.append_nil] at hu
        have := decode_encode (t := []) (by rw [List.append_nil, hu])
        exact absurd (this.symm.trans h) (Rune.ofChar_ne_invalid c)
      · rcases encode_eq_cons c with ⟨a', tl, hc, -, htl⟩
        rw [hc, List.cons_append, List.cons.injEq] at hu
        have hb : isTail b = true := htl b (by simp [hu.2])
        rw [hs b (by simp [hs'])] at hb
        cases hb
    · exact absurd ((decode_encode hu).symm.trans h) (Rune.ofChar_ne_invalid c)
  · have h' : a :: (t ++ s) = utf8EncodeChar c ++ (t' ++ s) := by
      rw [← List.append_assoc, ← h, List.cons_append]
    rw [decode_encode h, decode_encode h']

/-- A text cut before a byte that is no tail has the characters of its two parts. -/
theorem runes_append_of_head {s : Text} (hs : ∀ b ∈ s.head?, isTail b = false) (t : Text) :
    runes (t ++ s) = runes t ++ runes s := by
  induction t using rune_induction with
  | nil => simp [runes]
  | char c t ih => simp only [List.append_assoc, runes_encode_append, ih, List.cons_append]
  | stray a t h ih =>
    rw [List.cons_append, runes_stray h, runes_stray (by rw [decode_append_of_head hs, h]), ih,
      List.cons_append]

/-! ## Well-formed texts -/

theorem ofChars_eq_flatMap (cs : List Char) : ofChars cs = cs.flatMap utf8EncodeChar := by
  simp [ofChars, ofString, List.utf8Encode]

@[simp] theorem ofChars_nil : ofChars [] = [] := by
  simp [ofChars_eq_flatMap]

@[simp] theorem ofChars_cons (c : Char) (cs : List Char) :
    ofChars (c :: cs) = utf8EncodeChar c ++ ofChars cs := by
  simp [ofChars_eq_flatMap]

@[simp] theorem ofChars_append (cs ds : List Char) :
    ofChars (cs ++ ds) = ofChars cs ++ ofChars ds := by
  simp [ofChars_eq_flatMap]

theorem runes_ofChars_append (cs : List Char) (t : Text) :
    runes (ofChars cs ++ t) = cs.map Rune.ofChar ++ runes t := by
  induction cs with
  | nil => simp
  | cons c cs ih => simp [runes_encode_append, ih]

theorem runes_ofChars (cs : List Char) : runes (ofChars cs) = cs.map Rune.ofChar := by
  simpa [runes] using runes_ofChars_append cs []

/-- A text is well-formed if and only if it is the UTF-8 form of some characters. -/
theorem isValid_iff {t : Text} : t.isValid = true ↔ ∃ cs, t = ofChars cs := by
  constructor
  · intro h
    induction t using rune_induction with
    | nil => exact ⟨[], ofChars_nil.symm⟩
    | char c t ih =>
      simp only [isValid, runes_encode_append, List.all_cons, Bool.and_eq_true] at h
      rcases ih h.2 with ⟨cs, rfl⟩
      exact ⟨c :: cs, (ofChars_cons c cs).symm⟩
    | stray a t hstray ih =>
      simp [isValid, runes_stray hstray, Rune.isInvalid, Rune.invalid] at h
  · rintro ⟨cs, rfl⟩
    simp [isValid, runes_ofChars, Rune.ofChar_isInvalid]

theorem chars_ofChars (cs : List Char) : chars (ofChars cs) = cs := by
  simp [chars, runes_ofChars, Rune.ofChar, Function.comp_def]

/-! ## Leads -/

theorem dropLead?_eq_some_iff {lead t rest : Text} :
    dropLead? lead t = some rest ↔ t = lead ++ rest := by
  induction lead generalizing t with
  | nil => simp [dropLead?, eq_comm]
  | cons p lead ih =>
    rcases t with _ | ⟨b, t⟩
    · simp [dropLead?]
    · by_cases hpb : p = b
      · simp [dropLead?, hpb, ih]
      · simp [dropLead?, hpb, Ne.symm hpb]

theorem trimLead_append (lead t : Text) : trimLead lead (lead ++ t) = t := by
  rw [trimLead, dropLead?_eq_some_iff.mpr rfl, Option.getD_some]

theorem trimLead_of_not_prefix {lead t : Text} (h : ¬ lead <+: t) : trimLead lead t = t := by
  have hnone : dropLead? lead t = none := by
    rw [Option.eq_none_iff_forall_ne_some]
    intro rest hrest
    exact h ⟨rest, (dropLead?_eq_some_iff.mp hrest).symm⟩
  rw [trimLead, hnone, Option.getD_none]

end Text

end CallLight
