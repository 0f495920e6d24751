import Mathlib.Tactic.Common
import Mathlib.Data.List.Basic
import CallLight.Text.Basic

/-!
# Reading UTF-8

`Text.decode` reads one character off the front of a text by looking at byte ranges. Here it is
measured against the encoder of the standard library, `String.utf8EncodeChar`:

* `decode_encode`: what the encoder writes is read back, whatever follows it;
* `decode_cases`: what is read is written by the encoder, or the first byte is no part of a
  character.

Nothing below this module looks at the bits of a byte again. Texts are taken apart by
`rune_induction`, a character or a stray byte at a time.
-/

namespace CallLight

open String (utf8EncodeChar)

/-- The rune of a character: its code point, and the number of bytes of its UTF-8 form. -/
def Rune.ofChar (c : Char) : Rune := ⟨c.toNat, c.utf8Size⟩

namespace Text

/-! ## Byte ranges -/

theorem isTail_iff {b : UInt8} : isTail b = true ↔ 128 ≤ b.toNat ∧ b.toNat < 192 := by
  simp only [isTail, Bool.and_eq_true, decide_eq_true_eq, UInt8.le_iff_toNat_le, UInt8.toNat_ofNat]
  omega

theorem not_lt_of_toNat_le {a x : UInt8} (h : x.toNat ≤ a.toNat) : ¬ a < x := by
  rw [UInt8.lt_iff_toNat_lt]
  omega

theorem bound_le_iff {a b x l m : UInt8} : (if a == x then l else m) ≤ b ↔
    (a.toNat = x.toNat → l.toNat ≤ b.toNat) ∧ (a.toNat ≠ x.toNat → m.toNat ≤ b.toNat) := by
  rw [UInt8.le_iff_toNat_le, Ne, UInt8.toNat_inj]
  by_cases h : a = x <;> simp [h]

theorem le_bound_iff {a b x l m : UInt8} : b ≤ (if a == x then l else m) ↔
    (a.toNat = x.toNat → b.toNat ≤ l.toNat) ∧ (a.toNat ≠ x.toNat → b.toNat ≤ m.toNat) := by
  rw [UInt8.le_iff_toNat_le, Ne, UInt8.toNat_inj]
  by_cases h : a = x <;> simp [h]

theorem decode_one {a : UInt8} (ha : a.toNat < 128) (rest : Text) :
    decode a rest = ⟨a.toNat, 1⟩ := by
  have h1 : a < 0x80 := UInt8.lt_iff_toNat_lt.mpr ha
  simp [decode, h1]

theorem decode_two {a b : UInt8} (ha : 0xC2 ≤ a.toNat) (ha' : a.toNat < 0xE0)
    (hb : isTail b = true) (rest : Text) :
    decode a (b :: rest) = ⟨a.toNat % 32 * 64 + tailBits b, 2⟩ := by
  have h1 : ¬ a < 0x80 := not_lt_of_toNat_le (Nat.le_trans (by decide) ha)
  have h2 : ¬ a < 0xC2 := not_lt_of_toNat_le (Nat.le_trans (by decide) ha)
  have h3 : a < 0xE0 := UInt8.lt_iff_toNat_lt.mpr ha'
  simp only [decode, h1, h2, h3, hb, ↓reduceIte]

theorem decode_three {a b c : UInt8} (ha : 0xE0 ≤ a.toNat) (ha' : a.toNat < 0xF0)
    (hb : isTail b = true) (hc : isTail c = true) (hlow : a.toNat = 0xE0 → 0xA0 ≤ b.toNat)
    (hhigh : a.toNat = 0xED → b.toNat ≤ 0x9F) (rest : Text) :
    decode a (b :: c :: rest) = ⟨(a.toNat % 16 * 64 + tailBits b) * 64 + tailBits c, 3⟩ := by
  have h1 : ¬ a < 0x80 := not_lt_of_toNat_le (Nat.le_trans (by decide) ha)
  have h2 : ¬ a < 0xC2 := not_lt_of_toNat_le (Nat.le_trans (by decide) ha)
  have h3 : ¬ a < 0xE0 := not_lt_of_toNat_le (Nat.le_trans (by decide) ha)
  have h4 : a < 0xF0 := UInt8.lt_iff_toNat_lt.mpr ha'
  -- the second byte has bounds of its own after `0xE0` and `0xED`
  rw [isTail_iff] at hb
  have h5 : (if a == 0xE0 then 0xA0 else 0x80) ≤ b := bound_le_iff.mpr ⟨hlow, fun _ => hb.1⟩
  have h6 : b ≤ (if a == 0xED then 0x9F else 0xBF) :=
    le_bound_iff.mpr ⟨hhigh, fun _ => Nat.le_of_lt_succ hb.2⟩
  simp only [decode, h1, h2, h3, h4, h5, h6, hc, ↓reduceIte, decide_true, Bool.and_self]

theorem decode_four {a b c d : UInt8} (ha : 0xF0 ≤ a.toNat) (ha' : a.toNat < 0xF5)
    (hb : isTail b = true) (hc : isTail c = true) (hd : isTail d = true)
    (hlow : a.toNat = 0xF0 → 0x90 ≤ b.toNat) (hhigh : a.toNat = 0xF4 → b.toNat ≤ 0x8F)
    (rest : Text) :
    decode a (b :: c :: d :: rest) =
      ⟨((a.toNat % 8 * 64 + tailBits b) * 64 + tailBits c) * 64 + tailBits d, 4⟩ := by
  have h1 : ¬ a < 0x80 := not_lt_of_toNat_le (Nat.le_trans (by decide) ha)
  have h2 : ¬ a < 0xC2 := not_lt_of_toNat_le (Nat.le_trans (by decide) ha)
  have h3 : ¬ a < 0xE0 := not_lt_of_toNat_le (Nat.le_trans (by decide) ha)
  have h4 : ¬ a < 0xF0 := not_lt_of_toNat_le (Nat.le_trans (by decide) ha)
  have h5 : a < 0xF5 := UInt8.lt_iff_toNat_lt.mpr ha'
  -- the second byte has bounds of its own after `0xF0` and `0xF4`
  rw [isTail_iff] at hb
  have h6 : (if a == 0xF0 then 0x90 else 0x80) ≤ b := bound_le_iff.mpr ⟨hlow, fun _ => hb.1⟩
  have h7 : b ≤ (if a == 0xF4 then 0x8F else 0xBF) :=
    le_bound_iff.mpr ⟨hhigh, fun _ => Nat.le_of_lt_succ hb.2⟩
  simp only [decode, h1, h2, h3, h4, h5, h6, h7, hc, hd, ↓reduceIte, decide_true, Bool.and_self]

/-! ## Against the encoder -/

/-- The width of a character, by its code point. -/
theorem utf8Size_eq_ite (c : Char) : c.utf8Size =
    if c.toNat ≤ 0x7F then 1 else if c.toNat ≤ 0x7FF then 2
    else if c.toNat ≤ 0xFFFF then 3 else 4 :=
  rfl

/-- The bytes of a character, by its code point. -/
theorem utf8EncodeChar_eq_ite (c : Char) : utf8EncodeChar c =
    if c.toNat ≤ 0x7F then [.ofNat c.toNat]
    else if c.toNat ≤ 0x7FF then [.ofNat (c.toNat / 64 % 32 + 0xC0), .ofNat (c.toNat % 64 + 0x80)]
    else if c.toNat ≤ 0xFFFF then
      [.ofNat (c.toNat / 4096 % 16 + 0xE0), .ofNat (c.toNat / 64 % 64 + 0x80),
        .ofNat (c.toNat % 64 + 0x80)]
    else
      [.ofNat (c.toNat / 262144 % 8 + 0xF0), .ofNat (c.toNat / 4096 % 64 + 0x80),
        .ofNat (c.toNat / 64 % 64 + 0x80), .ofNat (c.toNat % 64 + 0x80)] :=
  rfl

/-- What the encoder writes is read back, whatever follows. -/
theorem decode_encode {c : Char} {t : Text} {a : UInt8} {rest : Text}
    (h : a :: rest = utf8EncodeChar c ++ t) : decode a rest = Rune.ofChar c := by
  have hc : c.toNat < 0xD800 ∨ 0xDFFF < c.toNat ∧ c.toNat < 0x110000 := c.valid
  rw [utf8EncodeChar_eq_ite] at h
  rw [Rune.ofChar, utf8Size_eq_ite]
  -- one case for each width; the ranges that `decode` checks follow from that of the code point
  split_ifs at h ⊢ with h1 h2 h3 <;>
    simp only [List.cons_append, List.nil_append, List.cons.injEq] at h <;>
    rcases h with ⟨rfl, rfl⟩
  · rw [decode_one (by rw [UInt8.toNat_ofNat']; omega), UInt8.toNat_ofNat',
      Nat.mod_eq_of_lt (by omega)]
  · rw [decode_two]
    · simp only [tailBits, UInt8.toNat_ofNat', Rune.mk.injEq, and_true]
      omega
    all_goals simp only [isTail_iff, UInt8.toNat_ofNat']; omega
  · rw [decode_three]
    · simp only [tailBits, UInt8.toNat_ofNat', Rune.mk.injEq, and_true]
      omega
    all_goals simp only [isTail_iff, UInt8.toNat_ofNat']; omega
  · rw [decode_four]
    · simp only [tailBits, UInt8.toNat_ofNat', Rune.mk.injEq, and_true]
      omega
    all_goals simp only [isTail_iff, UInt8.toNat_ofNat']; omega

theorem exists_char {n : Nat} (h : n < 0xD800 ∨ 0xDFFF < n ∧ n < 0x110000) :
    ∃ c : Char, c.toNat = n :=
  ⟨Char.ofNatAux n h, rfl⟩

theorem ofNat_eq {a : UInt8} {n : Nat} (h : n = a.toNat) : .ofNat n = a := by
  rw [h, UInt8.ofNat_toNat]

theorem exists_encode_one {a : UInt8} (ha : a.toNat < 128) : ∃ c, utf8EncodeChar c = [a] := by
  rcases exists_char (n := a.toNat) (by omega) with ⟨c, hc⟩
  refine ⟨c, ?_⟩
  rw [utf8EncodeChar_eq_ite, if_pos (by omega), ofNat_eq hc]

theorem exists_encode_two {a b : UInt8} (ha : 0xC2 ≤ a.toNat) (ha' : a.toNat < 0xE0)
    (hb : isTail b = true) : ∃ c, utf8EncodeChar c = [a, b] := by
  rw [isTail_iff] at hb
  rcases exists_char (n := a.toNat % 32 * 64 + b.toNat % 64) (by omega) with ⟨c, hc⟩
  refine ⟨c, ?_⟩
  rw [utf8EncodeChar_eq_ite, if_neg (by omega), if_pos (by omega), ofNat_eq (a := a) (by omega),
    ofNat_eq (a := b) (by omega)]

theorem exists_encode_three {a b d : UInt8} (ha : 0xE0 ≤ a.toNat) (ha' : a.toNat < 0xF0)
    (hb : isTail b = true) (hd : isTail d = true) (hlow : a.toNat = 0xE0 → 0xA0 ≤ b.toNat)
    (hhigh : a.toNat = 0xED → b.toNat ≤ 0x9F) : ∃ c, utf8EncodeChar c = [a, b, d] := by
  rw [isTail_iff] at hb hd
  obtain ⟨c, hc⟩ := exists_char (n := (a.toNat % 16 * 64 + b.toNat % 64) * 64 + d.toNat % 64)
    (by omega)
  refine ⟨c, ?_⟩
  rw [utf8EncodeChar_eq_ite, if_neg (by omega), if_neg (by omega), if_pos (by omega),
    ofNat_eq (a := a) (by omega), ofNat_eq (a := b) (by omega), ofNat_eq (a := d) (by omega)]

theorem exists_encode_four {a b d e : UInt8} (ha : 0xF0 ≤ a.toNat) (ha' : a.toNat < 0xF5)
    (hb : isTail b = true) (hd : isTail d = true) (he : isTail e = true)
    (hlow : a.toNat = 0xF0 → 0x90 ≤ b.toNat) (hhigh : a.toNat = 0xF4 → b.toNat ≤ 0x8F) :
    ∃ c, utf8EncodeChar c = [a, b, d, e] := by
  rw [isTail_iff] at hb hd he
  obtain ⟨c, hc⟩ := exists_char
    (n := ((a.toNat % 8 * 64 + b.toNat % 64) * 64 + d.toNat % 64) * 64 + e.toNat % 64) (by omega)
  refine ⟨c, ?_⟩
  rw [utf8EncodeChar_eq_ite, if_neg (by omega), if_neg (by omega), if_neg (by omega),
    ofNat_eq (a := a) (by omega), ofNat_eq (a := b) (by omega), ofNat_eq (a := d) (by omega),
    ofNat_eq (a := e) (by omega)]

/-- What is read off a text was written by the encoder, or the first byte is no part of any
character. -/
theorem decode_cases (a : UInt8) (rest : Text) :
    decode a rest = .invalid ∨ ∃ c t, a :: rest = utf8EncodeChar c ++ t := by
  unfold decode
  -- one case for each range of the first byte, in the order in which they are checked
  by_cases h1 : a < 0x80
  · rcases exists_encode_one (UInt8.lt_iff_toNat_lt.mp h1) with ⟨c, hc⟩
    exact .inr ⟨c, rest, by rw [hc]; rfl⟩
  by_cases h2 : a < 0xC2
  · exact .inl (by simp only [h1, h2, ↓reduceIte])
  rw [if_neg h1, if_neg h2]
  have h2' := UInt8.le_iff_toNat_le.mp (UInt8.not_lt.mp h2)
  by_cases h3 : a < 0xE0
  · rw [if_pos h3]
    rcases rest with _ | ⟨b, t⟩
    · exact .inl rfl
    by_cases hb : isTail b = true
    · rcases exists_encode_two h2' (UInt8.lt_iff_toNat_lt.mp h3) hb with ⟨c, hc⟩
      exact .inr ⟨c, t, by rw [hc]; rfl⟩
    · exact .inl (if_neg hb)
  rw [if_neg h3]
  have h3' := UInt8.le_iff_toNat_le.mp (UInt8.not_lt.mp h3)
  by_cases h4 : a < 0xF0
  · rw [if_pos h4]
    rcases rest with _ | ⟨b, _ | ⟨d, t⟩⟩
    · exact .inl rfl
    · exact .inl rfl
    -- the bounds of the second byte make it a tail and keep out long forms and surrogates
    simp only [Bool.and_eq_true, decide_eq_true_eq, bound_le_iff, le_bound_iff]
    split
    case isFalse => exact .inl rfl
    case isTrue hbd =>
      rcases hbd with ⟨⟨hlow, hhigh⟩, hd⟩
      have hb : isTail b = true := isTail_iff.mpr (by simp at hlow hhigh; omega)
      rcases exists_encode_three h3' (UInt8.lt_iff_toNat_lt.mp h4) hb hd hlow.1 hhigh.1 with ⟨c, hc⟩
      exact .inr ⟨c, t, by rw [hc]; rfl⟩
  rw [if_neg h4]
  have h4' := UInt8.le_iff_toNat_le.mp (UInt8.not_lt.mp h4)
  by_cases h5 : a < 0xF5
  · rw [if_pos h5]
    rcases rest with _ | ⟨b, _ | ⟨d, _ | ⟨e, t⟩⟩⟩
    · exact .inl rfl
    · exact .inl rfl
    · exact .inl rfl
    -- the same bounds, here to keep out what lies beyond Unicode
    simp only [Bool.and_eq_true, decide_eq_true_eq, bound_le_iff, le_bound_iff]
    split
    case isFalse => exact .inl rfl
    case isTrue hbde =>
      rcases hbde with ⟨⟨⟨hlow, hhigh⟩, hd⟩, he⟩
      have hb : isTail b = true := isTail_iff.mpr (by simp at hlow hhigh; omega)
      obtain ⟨c, hc⟩ :=
        exists_encode_four h4' (UInt8.lt_iff_toNat_lt.mp h5) hb hd he hlow.1 hhigh.1
      exact .inr ⟨c, t, by rw [hc]; rfl⟩
  exact .inl (if_neg h5)

end Text

end CallLight
