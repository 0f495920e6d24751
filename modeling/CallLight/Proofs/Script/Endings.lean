import CallLight.Proofs.Position.Endings
import CallLight.Proofs.Script.Checks
import CallLight.Proofs.Token.Data

/-!
# Tokens do not depend on line endings

A line break is a blank, however it is written, and no part of a word. So every step of the search
can be taken before or after the endings of the text are changed (`LineEnding.write`): reading
blanks and words, finding the two shapes, the scan, and the two passes (`tokens_write`). What is
found is the same but for its offsets, and as places do not change, the editor is told the same
(`encode_tokens_write`).
-/

namespace CallLight

open String (utf8EncodeChar)

/-! ## Token data -/

/-- The token in the text with the other ending. -/
def Token.moved (e : LineEnding) (t : Text) (tok : Token) : Token :=
  { tok with span := ⟨e.moved t tok.span.offset.toNat, tok.span.text⟩ }

theorem LineIndex.placeAt_toNat (ix : LineIndex) (o : Int) :
    ix.placeAt o.toNat = ix.placeAt o := by
  rw [placeAt, placeAt, Int.toNat_natCast]

/-- The editor sees the token at the same place. -/
theorem Token.entry_moved (e : LineEnding) {t : Text} (ht : 13 ∉ t) (tok : Token) :
    (tok.moved e t).entry (.ofText (e.write t)) = tok.entry (.ofText t) := by
  simp only [Token.entry, Token.moved, LineIndex.placeAt_write e ht, LineIndex.placeAt_toNat]

theorem encode_moved (e : LineEnding) {t : Text} (ht : 13 ∉ t) (toks : List Token) :
    encode (toks.map (Token.moved e t)) (e.write t) = encode toks t := by
  rw [encode_eq, encode_eq, List.map_map]
  simp only [Function.comp_def, Token.entry_moved e ht]

/-! ## Characters -/

namespace LineEnding

variable (e : LineEnding)

theorem lf_not_mem_encode {c : Char} (hc : c ≠ '\n') : 10 ∉ utf8EncodeChar c := by
  intro hmem
  by_cases hcr : c = '\r'
  · rw [hcr] at hmem
    exact absurd hmem (by decide)
  · have hbreak : LineBreaks.chars.isBreak c = false := by
      simp [LineBreaks.isBreak, LineBreaks.chars, hc, hcr]
    exact absurd (utf8_breakCode.not_isBreak c hbreak 10 hmem) (by decide)

theorem write_encode_append {c : Char} (hc : c ≠ '\n') (t : Text) :
    e.write (utf8EncodeChar c ++ t) = utf8EncodeChar c ++ e.write t := by
  rw [write_append, e.write_of_not_mem (lf_not_mem_encode hc)]

/-- The first line of a text, and what is left of it. -/
theorem exists_eq_append (t : Text) : ∃ line rest, t = line ++ rest ∧
    e.write t = line ++ e.write rest ∧ (∀ b ∈ rest.head?, Text.isTail b = false) ∧
    ∀ b ∈ (e.write rest).head?, Text.isTail b = false := by
  induction t with
  | nil => exact ⟨[], [], rfl, rfl, by simp, by simp [write]⟩
  | cons b t ih =>
    by_cases hb : b = 10
    · refine ⟨[], b :: t, rfl, rfl, ?_, ?_⟩
      · rw [hb]
        rintro _ ⟨⟩
        decide
      · rw [hb, write_cons_lf]
        cases e <;> rintro _ ⟨⟩ <;> decide
    · rcases ih with ⟨line, rest, rfl, hwrite, hrest, hrest'⟩
      refine ⟨b :: line, rest, rfl, ?_, hrest, hrest'⟩
      rw [List.cons_append, e.write_cons hb, hwrite, ← List.cons_append]

/-- No character reaches over the end of a line. -/
theorem decode_write (a : UInt8) (t : Text) : Text.decode a (e.write t) = Text.decode a t := by
  rcases e.exists_eq_append t with ⟨line, rest, ht, hwrite, hrest, hrest'⟩
  rw [hwrite, ht, Text.decode_append_of_head hrest', Text.decode_append_of_head hrest]

end LineEnding

namespace Script

variable (e : LineEnding)

/-! ## Blanks and words -/

theorem scriptSpace_ending_append (t : Text) :
    Text.scriptSpace (e.bytes ++ t) = e.bytes.length + Text.scriptSpace t := by
  have hblank : ∃ cs, (∀ c ∈ cs, c ∈ whiteSpace) ∧ e.bytes = Text.ofChars cs := by
    cases e with
    | lf => exact ⟨['\n'], by simp [whiteSpace], by decide⟩
    | crlf => exact ⟨['\r', '\n'], by simp [whiteSpace], by decide⟩
    | cr => exact ⟨['\r'], by simp [whiteSpace], by decide⟩
  rcases hblank with ⟨cs, hcs, hbytes⟩
  rw [hbytes]
  exact scriptSpace_ofChars_append hcs t

/-- A break was a blank and stays one. -/
theorem scriptSpace_write (t : Text) :
    Text.scriptSpace (e.write t) = e.moved t (Text.scriptSpace t) := by
  induction t using Text.rune_induction with
  | nil => simp [LineEnding.write, Text.scriptSpace]
  | char c t ih =>
    rw [scriptSpace_encode_append]
    by_cases hc : c = '\n'
    · have hlf : utf8EncodeChar '\n' = [10] := by decide
      have hwrite : e.write [10] = e.bytes := by cases e <;> rfl
      rw [hc, if_pos (by decide), ← String.length_utf8EncodeChar, e.moved_append_add, ← ih,
        e.write_append, hlf, hwrite, scriptSpace_ending_append]
    · rw [e.write_encode_append hc, scriptSpace_encode_append]
      split
      · rw [← String.length_utf8EncodeChar, e.moved_append_add, ← ih,
          e.write_of_not_mem (LineEnding.lf_not_mem_encode hc)]
      · exact (e.moved_zero _).symm
  | stray a t h _ =>
    have ha : a ≠ 10 := by
      rintro rfl
      rw [Text.decode_one (by decide)] at h
      cases h
    rw [scriptSpace_stray h, e.write_cons ha, e.moved_zero]
    exact scriptSpace_stray (by rw [e.decode_write, h])

theorem takeWhile_word_write (t : Text) :
    (e.write t).takeWhile isWordByte = t.takeWhile isWordByte := by
  induction t with
  | nil => rfl
  | cons b t ih =>
    by_cases hb : b = 10
    · rw [hb]
      cases e <;> rfl
    · rw [e.write_cons hb, List.takeWhile_cons, List.takeWhile_cons, ih]

theorem nameAt?_write (t : Text) : nameAt? (e.write t) = nameAt? t := by
  cases t with
  | nil => rfl
  | cons b t =>
    by_cases hb : b = 10
    · rw [hb]
      cases e <;> rfl
    · rw [e.write_cons hb, nameAt?, nameAt?, takeWhile_word_write]

theorem lf_not_mem_of_word {w : Text} (hw : ∀ b ∈ w, isWordByte b = true) : 10 ∉ w :=
  fun hmem => absurd (hw 10 hmem) (by decide)

theorem dropLead?_write {w : Text} (hw : ∀ b ∈ w, isWordByte b = true) (t : Text) :
    Text.dropLead? w (e.write t) = (Text.dropLead? w t).map e.write := by
  induction w generalizing t with
  | nil => rfl
  | cons p w ih =>
    have hp := hw p List.mem_cons_self
    cases t with
    | nil => rfl
    | cons b t =>
      by_cases hb : b = 10
      · -- no word starts with a break
        have hlf : p ≠ 10 := by
          rintro rfl
          cases hp
        have hcr : p ≠ 13 := by
          rintro rfl
          cases hp
        rw [hb, e.write_cons_lf]
        cases e <;> simp [LineEnding.bytes, Text.dropLead?, hlf, hcr]
      · rw [e.write_cons hb, Text.dropLead?, Text.dropLead?,
          ih fun c hc => hw c (List.mem_cons_of_mem _ hc)]
        split <;> rfl

/-! ## The two shapes -/

/-- The occurrence in the text with the other ending. -/
def Occurrence.moved (e : LineEnding) (t : Text) (o : Occurrence) : Occurrence :=
  ⟨e.moved t o.start, e.moved t o.offset, o.name, e.moved t o.stop⟩

/-- A shape occurs in front of a text however its lines end. -/
def Steady (e : LineEnding) (shape : Text → Option Occurrence) : Prop :=
  ∀ t, shape (e.write t) = (shape t).map (Occurrence.moved e t)

theorem callAt?_steady : Steady e callAt? := by
  intro t
  unfold callAt?
  rw [nameAt?_write]
  cases hname : nameAt? t with
  | none => rfl
  | some w =>
    rcases nameAt?_eq_some_iff.mp hname with ⟨hw, rest, rfl, -⟩
    have hwrite : e.write w = w := e.write_of_not_mem (lf_not_mem_of_word hw.isWordByte)
    simp only [Option.bind_eq_bind, Option.bind_some, e.write_append, hwrite, List.drop_left,
      scriptSpace_write, e.drop_write]
    -- the name is unchanged and the blanks are those of the text, so the same byte stands behind
    rcases hafter : rest.drop (Text.scriptSpace rest) with _ | ⟨b, after⟩
    · rfl
    by_cases hlf : b = 10
    · rw [hlf]
      cases e <;> rfl
    rw [e.write_cons hlf]
    by_cases hparen : b = 40
    · have hstop : e.moved (w ++ rest) (w.length + Text.scriptSpace rest + 1) =
          w.length + e.moved rest (Text.scriptSpace rest) + 1 := by
        rw [Nat.add_assoc, e.moved_append_add, hwrite, e.moved_add, hafter, e.moved_one hlf,
          Nat.add_assoc]
      simp only [hparen, Option.map_some, Occurrence.moved, e.moved_zero, hstop]
    · simp [hparen]

theorem declarationAt?_steady : Steady e declarationAt? := by
  intro t
  unfold declarationAt?
  rw [dropLead?_write e isName_keyword.isWordByte]
  cases hkeyword : Text.dropLead? keyword t with
  | none => rfl
  | some rest =>
    obtain rfl := Text.dropLead?_eq_some_iff.mp hkeyword
    have hwrite : e.write keyword = keyword :=
      e.write_of_not_mem (lf_not_mem_of_word isName_keyword.isWordByte)
    simp only [Option.map_some, Option.bind_eq_bind, Option.bind_some, scriptSpace_write,
      e.drop_write, nameAt?_write]
    by_cases hblank : Text.scriptSpace rest = 0
    · rw [hblank, e.moved_zero]
      rfl
    have hmoved : e.moved rest (Text.scriptSpace rest) ≠ 0 := by
      have := e.le_moved rest (Text.scriptSpace rest)
      omega
    rw [if_neg hblank, if_neg hmoved]
    cases hname : nameAt? (rest.drop (Text.scriptSpace rest)) with
    | none => rfl
    | some w =>
      rcases nameAt?_eq_some_iff.mp hname with ⟨hw, after, hafter, -⟩
      have hoffset : e.moved (keyword ++ rest) (keyword.length + Text.scriptSpace rest) =
          keyword.length + e.moved rest (Text.scriptSpace rest) := by
        rw [e.moved_append_add, hwrite]
      have hstop : e.moved (keyword ++ rest) (keyword.length + Text.scriptSpace rest + w.length) =
          keyword.length + e.moved rest (Text.scriptSpace rest) + w.length := by
        rw [e.moved_add, hoffset, ← List.drop_drop, List.drop_left, hafter, e.moved_append,
          e.write_of_not_mem (lf_not_mem_of_word hw.isWordByte)]
      simp only [Option.bind_some, Option.map_some, Occurrence.moved, e.moved_zero, hoffset, hstop]

/-! ## The scan -/

section Scan

variable {e} {shape : Text → Option Occurrence}

/-- A search passes over a byte that is no part of a word. -/
theorem findFrom_cons_of_not_isWordByte (hshape : Lawful shape) {b : UInt8}
    (hb : isWordByte b = false) (inWord : Bool) (t : Text) :
    findFrom shape inWord (b :: t) = (findFrom shape false t).map (·.shift 1) := by
  have hnone : shape (b :: t) = none := by
    rw [Option.eq_none_iff_forall_ne_some]
    intro o ho
    refine hshape.head ho fun c hc => ?_
    obtain rfl : b = c := by simpa using hc
    exact hb
  rw [findFrom, hnone, hb, ite_self]

theorem findFrom_ending_append (hshape : Lawful shape) (inWord : Bool) (t : Text) :
    findFrom shape inWord (e.bytes ++ t) =
      (findFrom shape false t).map (·.shift e.bytes.length) := by
  cases e with
  | lf => exact findFrom_cons_of_not_isWordByte hshape (by decide) inWord t
  | crlf =>
    rw [LineEnding.bytes, List.cons_append, findFrom_cons_of_not_isWordByte hshape (by decide),
      List.singleton_append, findFrom_cons_of_not_isWordByte hshape (by decide), Option.map_map]
    rfl
  | cr => exact findFrom_cons_of_not_isWordByte hshape (by decide) inWord t

/-- An occurrence in the rest of a text, seen from the start of the text. -/
theorem Occurrence.moved_shift (t : Text) (pos : Nat) (o : Occurrence) :
    (o.moved e (t.drop pos)).shift (e.moved t pos) = (o.shift pos).moved e t := by
  simp only [Occurrence.moved, Occurrence.shift, Nat.add_comm _ pos, e.moved_add]
  simp only [Nat.add_comm]

theorem findFrom_write (hshape : Lawful shape) (hsteady : Steady e shape) (inWord : Bool)
    (t : Text) :
    findFrom shape inWord (e.write t) = (findFrom shape inWord t).map (Occurrence.moved e t) := by
  induction t generalizing inWord with
  | nil => rfl
  | cons b t ih =>
    by_cases hb : b = 10
    · rw [hb, e.write_cons_lf, findFrom_ending_append hshape, ih,
        findFrom_cons_of_not_isWordByte hshape (by decide), Option.map_map, Option.map_map]
      refine Option.map_congr fun o _ => ?_
      have hshift := o.moved_shift (e := e) (10 :: t) 1
      rwa [e.moved_lf_one] at hshift
    · have hfront := hsteady (b :: t)
      have hrest : (findFrom shape (isWordByte b) (e.write t)).map (·.shift 1) =
          ((findFrom shape (isWordByte b) t).map (·.shift 1)).map (Occurrence.moved e (b :: t)) := by
        rw [ih, Option.map_map, Option.map_map]
        refine Option.map_congr fun o _ => ?_
        have hshift := o.moved_shift (e := e) (b :: t) 1
        rwa [e.moved_one hb] at hshift
      rw [e.write_cons hb] at hfront ⊢
      rw [findFrom, findFrom, hfront]
      cases inWord with
      | true => exact hrest
      | false =>
        cases shape (b :: t) with
        | none => exact hrest
        | some o => rfl

theorem find_write (hshape : Lawful shape) (hsteady : Steady e shape) (t : Text) (pos : Nat) :
    find shape ((e.write t).drop (e.moved t pos)) =
      (find shape (t.drop pos)).map (Occurrence.moved e (t.drop pos)) := by
  rw [e.drop_write]
  exact findFrom_write hshape hsteady false (t.drop pos)

theorem scanFrom_write (hshape : Lawful shape) (hsteady : Steady e shape) (t : Text) (pos : Nat)
    (c : Cancellation) : scanFrom shape (e.write t) (e.moved t pos) c =
      (scanFrom shape t pos c).map (Prod.map (List.map (Occurrence.moved e t)) id) := by
  fun_induction scanFrom shape t pos c with
  | case1 pos c hpos hpoll =>
    rw [scanFrom, if_pos ((e.moved_le_length_iff t).mpr hpos), hpoll]
    rfl
  | case2 pos c hpos c' hpoll hfind =>
    rw [scanFrom, if_pos ((e.moved_le_length_iff t).mpr hpos), hpoll]
    simp only [find_write hshape hsteady, hfind]
    rfl
  | case3 pos c hpos c' hpoll o₀ hfind o ih =>
    -- the scan resumes where the occurrence stops, in both texts
    have hstop : pos < o.stop := by
      have := (hshape.stop_of_find hfind).1
      simp only [o, Occurrence.shift]
      omega
    have hresume : o.resume pos = o.stop := if_neg (by omega)
    have hresume' : (o.moved e t).resume (e.moved t pos) = e.moved t o.stop :=
      if_neg (e.moved_lt_moved t hstop).ne'
    rw [hresume] at ih ⊢
    rw [scanFrom, if_pos ((e.moved_le_length_iff t).mpr hpos), hpoll]
    simp only [find_write hshape hsteady, hfind, Option.map_some, Occurrence.moved_shift]
    rw [hresume', ih]
    cases scanFrom shape t o.stop c' <;> rfl
  | case4 pos c hpos =>
    rw [scanFrom, if_neg (mt (e.moved_le_length_iff t).mp hpos)]
    rfl

/-- A scan of the text with the other ending finds the same occurrences. -/
theorem scan_write (hshape : Lawful shape) (hsteady : Steady e shape) (t : Text)
    (c : Cancellation) : scan shape (e.write t) c =
      (scan shape t c).map (Prod.map (List.map (Occurrence.moved e t)) id) := by
  have h := scanFrom_write hshape hsteady t 0 c
  rwa [e.moved_zero] at h

end Scan

/-! ## The two passes -/

/-- The declarations in the text with the other ending. -/
def Definitions.moved (e : LineEnding) (t : Text) (d : Definitions) : Definitions :=
  ⟨d.names, d.offsets.map (e.moved t)⟩

theorem Definitions.isCall_moved (t : Text) (d : Definitions) (o : Occurrence) :
    (d.moved e t).isCall (o.moved e t) = d.isCall o := by
  rw [Bool.eq_iff_iff, isCall_iff, isCall_iff]
  simp only [Definitions.moved, Occurrence.moved, List.mem_map, e.moved_inj]
  simp

theorem Occurrence.token_moved (t : Text) (o : Occurrence) :
    (o.moved e t).token = o.token.moved e t := rfl

theorem collectDefinitions_write (t : Text) (c : Cancellation) :
    collectDefinitions (e.write t) c =
      (collectDefinitions t c).map (Prod.map (Definitions.moved e t) id) := by
  rw [collectDefinitions, collectDefinitions,
    scan_write declarationAt?_lawful (declarationAt?_steady e)]
  cases scan declarationAt? t c with
  | none => rfl
  | some found =>
    simp [Except.map, Definitions.moved, Occurrence.moved, Function.comp_def]

theorem locateCalls_write (t : Text) (d : Definitions) (c : Cancellation) :
    locateCalls (e.write t) (d.moved e t) c =
      (locateCalls t d c).map (Prod.map (List.map (Token.moved e t)) id) := by
  rw [locateCalls, locateCalls, scan_write callAt?_lawful (callAt?_steady e)]
  cases scan callAt? t c with
  | none => rfl
  | some found =>
    have hfilter : (found.1.map (Occurrence.moved e t)).filter (d.moved e t).isCall =
        (found.1.filter d.isCall).map (Occurrence.moved e t) := by
      rw [List.filter_map]
      simp only [Function.comp_def, Definitions.isCall_moved]
    simp only [Option.map_some, Prod.map, hfilter, List.map_map, Except.map, id,
      Function.comp_def, Occurrence.token_moved]

/-- The tokens of the text with the other ending are the tokens of the text. -/
theorem tokens_write (t : Text) (c : Cancellation) :
    tokens (e.write t) c = (tokens t c).map (Prod.map (List.map (Token.moved e t)) id) := by
  rw [tokens, tokens, collectDefinitions_write]
  cases collectDefinitions t c with
  | error err => rfl
  | ok found => exact locateCalls_write e t found.1 found.2

end Script

/-- What the editor is told about the text with the other ending, whenever the search is called off. -/
theorem map_encode_tokens_write (e : LineEnding) {t : Text} (ht : 13 ∉ t) (c : Cancellation) :
    (Script.tokens (e.write t) c).map (fun found => (encode found.1 (e.write t), found.2)) =
      (Script.tokens t c).map fun found => (encode found.1 t, found.2) := by
  rw [Script.tokens_write]
  cases Script.tokens t c with
  | error err => simp only [Except.map]
  | ok found => simp only [Except.map, Prod.map, encode_moved e ht, id]

/-- What the editor is told about the calls of a text does not depend on how lines end. If a text
without carriage returns, of any length and well-formed or not, is written with another ending in
the place of each line feed, the numbers stay the same. A search that is called off ends at the same
check. -/
theorem encode_tokens_write (t : Text) (ht : 13 ∉ t) (e : LineEnding) :
    (∃ toks toks', Script.tokens t .never = .ok (toks, .never) ∧
      Script.tokens (e.write t) .never = .ok (toks', .never) ∧
      encode toks' (e.write t) = encode toks t) ∧
    ∀ c, (Script.tokens (e.write t) c).map (fun found => (encode found.1 (e.write t), found.2)) =
      (Script.tokens t c).map fun found => (encode found.1 t, found.2) := by
  rcases Script.exists_tokens_after t with ⟨toks, htokens, -⟩
  have htokens' : Script.tokens (e.write t) .never =
      .ok (toks.map (Token.moved e t), .never) := by
    rw [Script.tokens_write, htokens]
    rfl
  exact ⟨⟨toks, _, htokens, htokens', encode_moved e ht toks⟩, map_encode_tokens_write e ht⟩

/-- Declares and calls `f`, with a line break in the declaration and another in the call. -/
def brokenLines : Text := Script.keyword ++ [10, 102, 10, 102, 10, 40]

/-- The call is on the third line, with either ending. -/
theorem encode_tokens_write_brokenLines :
    13 ∉ brokenLines ∧
    (∃ toks, Script.tokens (LineEnding.crlf.write brokenLines) .never = .ok (toks, .never) ∧
      encode toks (LineEnding.crlf.write brokenLines) = [2, 0, 1, 0, 1]) ∧
    ∃ toks, Script.tokens (LineEnding.cr.write brokenLines) .never = .ok (toks, .never) ∧
      encode toks (LineEnding.cr.write brokenLines) = [2, 0, 1, 0, 1] := by
  let call : Token := ⟨.function, .declaration, ⟨7, [102]⟩⟩
  have ht : 13 ∉ brokenLines := by decide
  have hscan : Script.tokens brokenLines .never = .ok ([call], .never) := by decide +kernel
  have hdata : encode [call] brokenLines = [2, 0, 1, 0, 1] := by
    rw [encode_eq, List.map_singleton, List.mergeSort_singleton]
    decide +kernel
  have hany : ∀ e : LineEnding, ∃ toks,
      Script.tokens (e.write brokenLines) .never = .ok (toks, .never) ∧
      encode toks (e.write brokenLines) = [2, 0, 1, 0, 1] := by
    intro e
    rcases (encode_tokens_write brokenLines ht e).1 with ⟨toks, toks', htoks, htoks', hencode⟩
    obtain rfl : [call] = toks := (Prod.mk.inj (Except.ok.inj (hscan.symm.trans htoks))).1
    exact ⟨toks', htoks', hencode.trans hdata⟩
  exact ⟨ht, hany .crlf, hany .cr⟩

end CallLight
