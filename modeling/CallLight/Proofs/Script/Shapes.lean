import Mathlib.Data.List.TakeWhile
import CallLight.Proofs.Text.Runes
import CallLight.Script.Word

/-!
# Words, blanks and the shapes made of them

What the two shapes of a script look like, said without the functions that look for them: a call is
a name, blanks and a parenthesis (`callAt?_eq_some_iff`), a declaration the keyword, blanks and a
name (`declarationAt?_eq_some_iff`). Blanks are the UTF-8 forms of characters of `whiteSpace`, and
none of their bytes is a word byte, so a word that stands against blanks ends there.
-/

namespace CallLight.Script

open String (utf8EncodeChar)

/-! ## Blanks -/

/-- The white space of scripts: tab to carriage return, the space separators of Unicode, the byte
order mark, and the separators of lines and paragraphs. -/
def whiteSpace : List Char :=
  ['\t', '\n', '\u000b', '\u000c', '\r', ' ', '\u00a0', '\u1680', '\u2000', '\u2001', '\u2002',
    '\u2003', '\u2004', '\u2005', '\u2006', '\u2007', '\u2008', '\u2009', '\u200a', '\u202f',
    '\u205f', '\u3000', '\ufeff', '\u2028', '\u2029']

/-- A text that is made of white space and nothing else. -/
def IsBlank (t : Text) : Prop := ∃ cs, (∀ c ∈ cs, c ∈ whiteSpace) ∧ t = Text.ofChars cs

theorem isScriptSpace_iff {c : Char} : Text.isScriptSpace c.toNat = true ↔ c ∈ whiteSpace := by
  simp only [Text.isScriptSpace, Text.isSpaceSeparator, whiteSpace, Bool.or_eq_true,
    Bool.and_eq_true, decide_eq_true_eq, beq_iff_eq, List.mem_cons, List.not_mem_nil, or_false,
    ← Char.toNat_inj]
  simp
  omega

theorem not_isWordByte_of_mem_blank {t : Text} (ht : IsBlank t) {b : UInt8} (hb : b ∈ t) :
    isWordByte b = false := by
  have hspace : (whiteSpace.flatMap utf8EncodeChar).all (!isWordByte ·) = true := by decide
  rcases ht with ⟨cs, hcs, rfl⟩
  rw [Text.ofChars_eq_flatMap, List.mem_flatMap] at hb
  rcases hb with ⟨c, hc, hb⟩
  simpa using List.all_eq_true.mp hspace b (List.mem_flatMap.mpr ⟨c, hcs c hc, hb⟩)

theorem scriptSpace_encode_append (c : Char) (t : Text) : Text.scriptSpace (utf8EncodeChar c ++ t) =
    if c ∈ whiteSpace then c.utf8Size + Text.scriptSpace t else 0 := by
  rcases Text.encode_append_eq_cons c t with ⟨a, rest, happend, hdec, hdrop⟩
  rw [happend, Text.scriptSpace]
  simp only [hdec, Rune.ofChar, isScriptSpace_iff, hdrop]

theorem scriptSpace_stray {a : UInt8} {t : Text} (h : Text.decode a t = .invalid) :
    Text.scriptSpace (a :: t) = 0 := by
  rw [Text.scriptSpace, h]
  rfl

theorem scriptSpace_ofChars_append {cs : List Char} (hcs : ∀ c ∈ cs, c ∈ whiteSpace) (t : Text) :
    Text.scriptSpace (Text.ofChars cs ++ t) = (Text.ofChars cs).length + Text.scriptSpace t := by
  induction cs with
  | nil => simp
  | cons c cs ih =>
    rw [Text.ofChars_cons, List.append_assoc, scriptSpace_encode_append, if_pos (hcs c (by simp)),
      ih fun d hd => hcs d (by simp [hd]), List.length_append, String.length_utf8EncodeChar]
    omega

/-- The white space at the front of a text, and what follows it. -/
theorem exists_scriptSpace (t : Text) : ∃ blank rest, t = blank ++ rest ∧ IsBlank blank ∧
    Text.scriptSpace t = blank.length := by
  induction t using Text.rune_induction with
  | nil => exact ⟨[], [], rfl, ⟨[], by simp⟩, by simp [Text.scriptSpace]⟩
  | char c t ih =>
    rw [scriptSpace_encode_append]
    split
    next hc =>
      rcases ih with ⟨_, rest, rfl, ⟨cs, hcs, rfl⟩, hspace⟩
      refine ⟨utf8EncodeChar c ++ Text.ofChars cs, rest, by simp, ⟨c :: cs, ?_, by simp⟩, ?_⟩
      · simpa [hc] using hcs
      · rw [hspace, List.length_append, String.length_utf8EncodeChar]
    next => exact ⟨[], _, rfl, ⟨[], by simp⟩, rfl⟩
  | stray a t h _ => exact ⟨[], a :: t, rfl, ⟨[], by simp⟩, scriptSpace_stray h⟩

theorem scriptSpace_cons_eq_zero {a : UInt8} (ha : a.toNat < 128)
    (hspace : Text.isScriptSpace a.toNat = false) (t : Text) : Text.scriptSpace (a :: t) = 0 := by
  rw [Text.scriptSpace, Text.decode_one ha]
  simp [hspace]

/-! ## Words -/

def isDigit (b : UInt8) : Bool := 48 ≤ b && b ≤ 57

theorem isWordByte_iff {b : UInt8} : isWordByte b = true ↔
    97 ≤ b.toNat ∧ b.toNat ≤ 122 ∨ 65 ≤ b.toNat ∧ b.toNat ≤ 90 ∨ 48 ≤ b.toNat ∧ b.toNat ≤ 57 ∨
      b.toNat = 95 := by
  simp only [isWordByte, Bool.or_eq_true, Bool.and_eq_true, decide_eq_true_eq, beq_iff_eq,
    UInt8.le_iff_toNat_le, ← UInt8.toNat_inj, or_assoc]
  rfl

theorem scriptSpace_word_cons {b : UInt8} (hb : isWordByte b = true) (t : Text) :
    Text.scriptSpace (b :: t) = 0 := by
  rw [isWordByte_iff] at hb
  refine scriptSpace_cons_eq_zero (by omega) ?_ t
  simp only [Text.isScriptSpace, Text.isSpaceSeparator, Bool.or_eq_false_iff,
    Bool.and_eq_false_iff, decide_eq_false_iff_not, beq_eq_false_iff_ne]
  omega

/-- A run of word bytes that does not start with a digit. -/
structure IsName (w : Text) : Prop where
  ne_nil : w ≠ []
  isWordByte : ∀ b ∈ w, isWordByte b = true
  head_not_digit : ∀ b ∈ w.head?, isDigit b = false

/-- A word can start after this text: it does not end in a word byte. -/
def AllowsWord (before : Text) : Prop := ∀ b ∈ before.getLast?, isWordByte b = false

/-- A word ends before this text: it does not start with a word byte. -/
def EndsWord (after : Text) : Prop := ∀ b ∈ after.head?, isWordByte b = false

/-- The text is `before`, the whole word `w`, and `after`. -/
structure WholeWord (t before w after : Text) : Prop where
  eq_append : t = before ++ (w ++ after)
  ne_nil : w ≠ []
  isWordByte : ∀ b ∈ w, isWordByte b = true
  allowsWord : AllowsWord before
  endsWord : EndsWord after

theorem takeWhile_word_append {w : Text} (hw : ∀ b ∈ w, isWordByte b = true) {t : Text}
    (ht : EndsWord t) : (w ++ t).takeWhile isWordByte = w := by
  have hend : t.takeWhile isWordByte = [] := by
    rcases t with _ | ⟨c, t⟩
    · rfl
    · rw [List.takeWhile_cons_of_neg (by simp [ht c (by simp)])]
  rw [List.takeWhile_append_of_pos hw, hend, List.append_nil]

theorem WholeWord.unique {t before w after before' w' after' : Text}
    (h : WholeWord t before w after) (h' : WholeWord t before' w' after')
    (hlen : before.length = before'.length) : w = w' := by
  have hrest : w ++ after = w' ++ after' :=
    List.append_inj_right (h.eq_append.symm.trans h'.eq_append) hlen
  calc w = (w ++ after).takeWhile Script.isWordByte :=
        (takeWhile_word_append h.isWordByte h.endsWord).symm
    _ = (w' ++ after').takeWhile Script.isWordByte := by rw [hrest]
    _ = w' := takeWhile_word_append h'.isWordByte h'.endsWord

theorem IsName.not_endsWord_append {w : Text} (hw : IsName w) (t : Text) :
    ¬ EndsWord (w ++ t) := by
  rcases List.exists_cons_of_ne_nil hw.ne_nil with ⟨b, w', rfl⟩
  intro h
  have hfalse := h b rfl
  rw [hw.isWordByte b (by simp)] at hfalse
  cases hfalse

/-- No word starts inside a word. -/
theorem not_allowsWord_inside {s w t : Text} (hw : ∀ b ∈ w, isWordByte b = true) {q : Nat}
    (hq : s.length < q) (hle : q ≤ s.length + w.length) :
    ¬ AllowsWord ((s ++ (w ++ t)).take q) := by
  intro hallows
  have hlt : q - 1 - s.length < w.length := by omega
  have hget : (s ++ (w ++ t))[q - 1]? = some w[q - 1 - s.length] := by
    rw [List.getElem?_append_right (by omega), List.getElem?_append_left hlt,
      List.getElem?_eq_getElem hlt]
  have hword := hw _ (List.getElem_mem hlt)
  have hfalse := hallows w[q - 1 - s.length]
    (by rw [List.getLast?_take, if_neg (by omega), hget]; rfl)
  rw [hword] at hfalse
  cases hfalse

/-- No word starts between words. -/
theorem endsWord_inside {s gap t : Text} (hgap : ∀ b ∈ gap, isWordByte b = false) {q : Nat}
    (hq : s.length ≤ q) (hlt : q < s.length + gap.length) :
    EndsWord ((s ++ (gap ++ t)).drop q) := by
  intro b hb
  rw [List.head?_drop, List.getElem?_append_right hq, List.getElem?_append_left (by omega)] at hb
  exact hgap b (List.mem_of_getElem? hb)

theorem isNameStart_iff {b : UInt8} :
    isNameStart b = true ↔ isWordByte b = true ∧ isDigit b = false := by
  change (isWordByte b && !isDigit b) = true ↔ _
  simp

theorem nameAt?_eq_some_iff {t w : Text} :
    nameAt? t = some w ↔ IsName w ∧ ∃ rest, t = w ++ rest ∧ EndsWord rest := by
  constructor
  · intro h
    rcases t with _ | ⟨b, t⟩
    · cases h
    rw [nameAt?] at h
    split at h
    next hb =>
      obtain rfl := Option.some.inj h
      rw [isNameStart_iff] at hb
      refine ⟨⟨by simp, ?_, ?_⟩, t.dropWhile isWordByte, ?_, ?_⟩
      · intro c hc
        rcases List.mem_cons.mp hc with rfl | hc
        · exact hb.1
        · exact List.mem_takeWhile_imp hc
      · simpa using hb.2
      · rw [List.cons_append, List.takeWhile_append_dropWhile]
      · intro c hc
        have hhead := List.head?_dropWhile_not isWordByte t
        rwa [Option.mem_def.mp hc] at hhead
    next => cases h
  · rintro ⟨hw, rest, rfl, hrest⟩
    rcases w with _ | ⟨b, w⟩
    · exact absurd rfl hw.ne_nil
    have hb : isNameStart b = true := isNameStart_iff.mpr
      ⟨hw.isWordByte b (by simp), hw.head_not_digit b (by simp)⟩
    rw [List.cons_append, nameAt?, if_pos hb,
      takeWhile_word_append (fun c hc => hw.isWordByte c (by simp [hc])) hrest]

/-! ## The two shapes -/

theorem EndsWord.of_blank {blank : Text} (hblank : IsBlank blank) {rest : Text}
    (hrest : EndsWord rest) : EndsWord (blank ++ rest) := by
  rcases blank with _ | ⟨b, blank⟩
  · exact hrest
  · intro c hc
    obtain rfl : b = c := by simpa using hc
    exact not_isWordByte_of_mem_blank hblank (by simp)

theorem endsWord_paren (rest : Text) : EndsWord (40 :: rest) := by
  intro b hb
  obtain rfl : 40 = b := by simpa using hb
  decide

/-- A call is a name, blanks and an opening parenthesis. -/
theorem callAt?_eq_some_iff {t : Text} {o : Occurrence} : callAt? t = some o ↔
    ∃ w blank rest, t = w ++ (blank ++ 40 :: rest) ∧ IsName w ∧ IsBlank blank ∧
      o = ⟨0, 0, w, w.length + blank.length + 1⟩ := by
  constructor
  · intro h
    simp only [callAt?, Option.bind_eq_bind, Option.bind_eq_some_iff] at h
    rcases h with ⟨w, hw, h⟩
    rcases nameAt?_eq_some_iff.mp hw with ⟨hname, rest, rfl, -⟩
    rw [List.drop_left] at h
    rcases exists_scriptSpace rest with ⟨blank, after, rfl, hblank, hspace⟩
    rw [hspace, List.drop_left] at h
    split at h
    next => exact ⟨w, blank, _, rfl, hname, hblank, (Option.some.inj h).symm⟩
    next => cases h
  · rintro ⟨w, blank, rest, rfl, hw, hblank, rfl⟩
    -- blanks and the parenthesis end the name, so that it is a whole word
    have hname : nameAt? (w ++ (blank ++ 40 :: rest)) = some w :=
      nameAt?_eq_some_iff.mpr ⟨hw, _, rfl, .of_blank hblank (endsWord_paren rest)⟩
    rcases hblank with ⟨cs, hcs, rfl⟩
    -- the parenthesis ends the blanks
    have hspace : Text.scriptSpace (Text.ofChars cs ++ 40 :: rest) = (Text.ofChars cs).length := by
      rw [scriptSpace_ofChars_append hcs, scriptSpace_cons_eq_zero (by decide) (by decide),
        Nat.add_zero]
    simp only [callAt?, hname, Option.bind_eq_bind, Option.bind_some, List.drop_left, hspace]

/-- A declaration is the keyword, at least one blank, and a name that is a whole word. -/
theorem declarationAt?_eq_some_iff {t : Text} {o : Occurrence} : declarationAt? t = some o ↔
    ∃ blank w rest, t = keyword ++ (blank ++ (w ++ rest)) ∧ blank ≠ [] ∧ IsBlank blank ∧
      IsName w ∧ EndsWord rest ∧
      o = ⟨0, keyword.length + blank.length, w, keyword.length + blank.length + w.length⟩ := by
  constructor
  · intro h
    simp only [declarationAt?, Option.bind_eq_bind, Option.bind_eq_some_iff] at h
    rcases h with ⟨afterKeyword, hkeyword, h⟩
    obtain rfl := Text.dropLead?_eq_some_iff.mp hkeyword
    rcases exists_scriptSpace afterKeyword with ⟨blank, after, rfl, hblank, hspace⟩
    rw [hspace] at h
    split at h
    next => cases h
    next hne =>
      rcases Option.bind_eq_some_iff.mp h with ⟨w, hw, ho⟩
      rw [List.drop_left] at hw
      rcases nameAt?_eq_some_iff.mp hw with ⟨hname, rest, rfl, hrest⟩
      exact ⟨blank, w, rest, rfl, fun hnil => hne (by rw [hnil]; rfl), hblank, hname, hrest,
        (Option.some.inj ho).symm⟩
  · rintro ⟨blank, w, rest, rfl, hne, hblank, hw, hrest, rfl⟩
    have hkeyword : Text.dropLead? keyword (keyword ++ (blank ++ (w ++ rest))) =
        some (blank ++ (w ++ rest)) := Text.dropLead?_eq_some_iff.mpr rfl
    have hname : nameAt? (w ++ rest) = some w := nameAt?_eq_some_iff.mpr ⟨hw, rest, rfl, hrest⟩
    rcases hblank with ⟨cs, hcs, rfl⟩
    -- the name ends the blanks
    have hspace : Text.scriptSpace (Text.ofChars cs ++ (w ++ rest)) = (Text.ofChars cs).length := by
      rcases List.exists_cons_of_ne_nil hw.ne_nil with ⟨b, w', rfl⟩
      rw [scriptSpace_ofChars_append hcs, List.cons_append,
        scriptSpace_word_cons (hw.isWordByte b (by simp)), Nat.add_zero]
    have hlen : (Text.ofChars cs).length ≠ 0 := fun h => hne (List.length_eq_zero_iff.mp h)
    simp only [declarationAt?, hkeyword, Option.bind_eq_bind, Option.bind_some, hspace,
      List.drop_left, hname, if_neg hlen]

end CallLight.Script
