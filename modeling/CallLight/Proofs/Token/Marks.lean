import Mathlib.Data.List.Forall2
import CallLight.Command.Tokens
import CallLight.Files.Tree
import CallLight.Proofs.Position.RoundTrip
import CallLight.Proofs.Script.Keywords
import CallLight.Proofs.Token.Data

/-!
# What an editor marks

From the text to the editor and back: the scan finds a name, its offset becomes a line and a column,
these become differences, and the editor adds the differences up again. What it marks then are the
names that the scan found, each on one line and apart from the next (`decode_encode_tokens`). The
text may be any bytes; only its length is bounded, because the numbers have 32 bits.
-/

namespace CallLight

open LineBreaks Script

/-- A mark is a token of the text: a call, on one line, whose name stands between the places where
the mark starts and stops. -/
structure Mark.Covers (t : Text) (tok : Token) (m : Mark) : Prop where
  type : m.type = 0
  modifiers : m.modifiers = 1
  start : ((LineIndex.ofText t).offsetAt ⟨m.line, m.character⟩ : Int) = tok.span.offset
  stop : ((LineIndex.ofText t).offsetAt ⟨m.line, (m.character + m.length : Nat)⟩ : Int) =
    tok.span.offset + tok.span.text.length
  text : (t.drop tok.span.offset.toNat).take tok.span.text.length = tok.span.text
  one_line : ∀ b ∈ tok.span.text, bytes.isBreak b = false

/-- Marks are in the order of their tokens: places grow with offsets. -/
theorem Mark.Covers.lt {t : Text} {tok tok' : Token} {m m' : Mark} (h : m.Covers t tok)
    (h' : m'.Covers t tok')
    (hlt : tok.span.offset + tok.span.text.length < tok'.span.offset) :
    m.line < m'.line ∨ m.line = m'.line ∧ m.character + m.length < m'.character := by
  have hbefore : Place.before ⟨m.line, (m.character + m.length : Nat)⟩ ⟨m'.line, m'.character⟩ =
      true := by
    have hstop := h.stop
    have hstart := h'.start
    exact LineIndex.before_of_offsetAt_lt (t := t) (by omega)
  simp only [Place.before_iff] at hbefore
  omega

/-! ## One token -/

/-- The mark of a token, in numbers without a bound. -/
def Token.mark (ix : LineIndex) (tok : Token) : Mark :=
  ⟨(ix.placeAt tok.span.offset).line.toNat, (ix.placeAt tok.span.offset).character.toNat,
    tok.span.text.units, tok.type.index.toNat, tok.modifiers.bits.toNat⟩

theorem Token.mark_eq {ix : LineIndex} {tok : Token} {l c : Nat}
    (hplace : ix.placeAt tok.span.offset = ⟨l, c⟩) : tok.mark ix =
      ⟨l, c, tok.span.text.units, tok.type.index.toNat, tok.modifiers.bits.toNat⟩ := by
  simp only [mark, hplace, Int.toNat_natCast]

/-- A mark whose numbers have 32 bits is written as it is. -/
theorem Token.mark_entry {ix : LineIndex} {tok : Token} (hl : (tok.mark ix).line < UInt32.size)
    (hc : (tok.mark ix).character < UInt32.size) (hn : (tok.mark ix).length < UInt32.size) :
    (tok.entry ix).mark = tok.mark ix := by
  simp only [entry, Entry.mark, mark] at *
  rw [UInt32.toNat_ofNat_of_lt' hl, UInt32.toNat_ofNat_of_lt' hc, UInt32.toNat_ofNat_of_lt' hn]

namespace Script

theorem lt_of_isWordByte {b : UInt8} (hb : isWordByte b = true) : b.toNat < 128 := by
  rw [isWordByte_iff] at hb
  omega

theorem not_isBreak_of_isWordByte {b : UInt8} (hb : isWordByte b = true) :
    bytes.isBreak b = false := by
  rw [← Bool.not_eq_true, isBreak_iff]
  rintro (rfl | rfl) <;> exact absurd hb (by decide)

section Call

variable {t : Text} {o : Nat} {w : Text} (h : CallSite t o w) {tok : Token}
  (htok : tok = ⟨.function, .declaration, ⟨o, w⟩⟩)

include h in
theorem CallSite.le_length : o + w.length ≤ t.length := by
  rcases h with ⟨before, after, hw, rfl, -⟩
  have := congrArg List.length hw.eq_append
  simp only [List.length_append] at this
  omega

include h htok

/-- The place of a call, its mark, and the offsets of its columns. -/
theorem CallSite.exists_columns :
    ∃ l c : Nat, (LineIndex.ofText t).placeAt tok.span.offset = ⟨l, c⟩ ∧ l + c ≤ o ∧
      tok.mark (.ofText t) = ⟨l, c, w.length, 0, 1⟩ ∧
      ∀ i ≤ w.length, (LineIndex.ofText t).offsetAt ⟨l, (c + i : Nat)⟩ = o + i := by
  rcases h with ⟨before, after, hw, rfl, -⟩
  have hascii : ∀ b ∈ w, b.toNat < 128 := fun b hb => lt_of_isWordByte (hw.isWordByte b hb)
  have hbreak : ∀ b ∈ w, bytes.isBreak b = false := fun b hb =>
    not_isBreak_of_isWordByte (hw.isWordByte b hb)
  rcases LineIndex.exists_placeAt_columns hw.eq_append hw.ne_nil hascii hbreak with
    ⟨l, c, hplace, hle, hcolumns⟩
  have hplace' : (LineIndex.ofText t).placeAt tok.span.offset = ⟨l, c⟩ := by
    rw [htok]
    exact hplace
  refine ⟨l, c, hplace', hle, ?_, hcolumns⟩
  rw [Token.mark_eq hplace', htok, Text.units_ascii hascii]
  rfl

theorem CallSite.covers_mark : (tok.mark (.ofText t)).Covers t tok := by
  rcases h.exists_columns htok with ⟨l, c, -, -, hmark, hcolumns⟩
  rcases h with ⟨before, after, hw, rfl, -⟩
  rw [hmark]
  subst htok
  refine ⟨rfl, rfl, ?_, ?_, ?_, ?_⟩
  · exact congrArg Nat.cast (hcolumns 0 (Nat.zero_le _))
  · exact (congrArg Nat.cast (hcolumns w.length (Nat.le_refl _))).trans (Int.natCast_add _ _)
  · simp only [Int.toNat_natCast]
    rw [hw.eq_append, List.drop_left, List.take_left]
  · exact fun b hb => not_isBreak_of_isWordByte (hw.isWordByte b hb)

/-- In a text of less than 2³² bytes the editor gets the mark as it is. -/
theorem CallSite.mark_entry (ht : t.length < UInt32.size) :
    (tok.entry (.ofText t)).mark = tok.mark (.ofText t) := by
  rcases h.exists_columns htok with ⟨l, c, -, hle, hmark, -⟩
  have hlen := h.le_length
  refine Token.mark_entry ?_ ?_ ?_ <;> rw [hmark] <;> dsimp only <;> omega

end Call

/-- The place of a call, and the mark that an editor makes of it. -/
theorem CallSite.exists_mark {t : Text} (ht : t.length < UInt32.size) {o : Nat} {w : Text}
    (h : CallSite t o w) {tok : Token} (htok : tok = ⟨.function, .declaration, ⟨o, w⟩⟩) :
    ∃ l c : Nat, (LineIndex.ofText t).placeAt tok.span.offset = ⟨l, c⟩ ∧
      (tok.entry (.ofText t)).mark = ⟨l, c, tok.span.text.units, 0, 1⟩ ∧
      Mark.Covers t tok ⟨l, c, tok.span.text.units, 0, 1⟩ := by
  rcases h.exists_columns htok with ⟨l, c, hplace, -⟩
  have hmark : tok.mark (.ofText t) = ⟨l, c, tok.span.text.units, 0, 1⟩ := by
    rw [Token.mark_eq hplace, htok]
    rfl
  exact ⟨l, c, hplace, (h.mark_entry htok ht).trans hmark, hmark ▸ h.covers_mark htok⟩

/-- The tokens of a text are calls, each apart from the next. -/
theorem exists_tokens (t : Text) : ∃ toks, tokens t .never = .ok (toks, .never) ∧
    toks.Pairwise (fun a b : Token => a.span.offset + a.span.text.length < b.span.offset) ∧
    ∀ tok ∈ toks, ∃ (o : Nat) (w : Text), tok = ⟨.function, .declaration, ⟨o, w⟩⟩ ∧
      CallSite t o w := by
  rcases exists_tokens_iff t with ⟨toks, htokens, hapart, hmem⟩
  refine ⟨toks, htokens, hapart, fun tok htok => ?_⟩
  rcases (hmem tok).mp htok with ⟨o, w, heq, hsite, -⟩
  exact ⟨o, w, heq, hsite⟩

end Script

/-! ## The whole text -/

section Agreement

variable {t : Text} {toks : List Token}
  (hcovers : ∀ tok ∈ toks, (tok.entry (.ofText t)).mark.Covers t tok)
  (hapart : toks.Pairwise fun a b : Token =>
    a.span.offset + a.span.text.length < b.span.offset)
include hcovers hapart

theorem pairwise_marks : (toks.map fun tok => (tok.entry (.ofText t)).mark).Pairwise
    fun a b : Mark => a.line < b.line ∨ a.line = b.line ∧ a.character + a.length < b.character := by
  refine List.pairwise_map.mpr (hapart.imp_of_mem fun {a b} ha hb hlt => ?_)
  exact (hcovers a ha).lt (hcovers b hb) hlt

/-- The tokens come in document order, so the builder leaves their order alone. -/
theorem decode_encode_of_covers :
    Mark.decode (encode toks t) = toks.map fun tok => (tok.entry (.ofText t)).mark := by
  refine decode_encode_of_pairwise (List.pairwise_map.mpr ?_)
  refine (List.pairwise_map.mp (pairwise_marks hcovers hapart)).imp fun {a b} hlt => ?_
  rw [Entry.notAfter_iff]
  simp only [Entry.mark] at hlt
  unfold Entry.AtOrAfter
  omega

end Agreement

theorem Command.classifyAll_singleton {m : Type → Type} [Monad m] [LawfulMonad m]
    {fs : FileSystem m} {path t : Text} {toks : List Token} (hread : fs.read path = pure (.ok t))
    (htoks : tokens t .never = .ok (toks, .never)) :
    classifyAll fs [path] .never = pure (.ok ([.ofTokens path t toks], [])) := by
  simp [classifyAll, hread, htoks]

/-- What an editor decodes is what the scan found, and what the command line prints. -/
theorem decode_encode_tokens (t : Text) (ht : t.length < UInt32.size) :
    ∃ toks, tokens t .never = .ok (toks, .never) ∧
      (encode toks t).length = 5 * toks.length ∧
      List.Forall₂ (fun tok mark => Mark.Covers t tok mark) toks (Mark.decode (encode toks t)) ∧
      (Mark.decode (encode toks t)).Pairwise
        (fun a b => a.line = b.line → a.character + a.length < b.character) ∧
      ∀ {m : Type → Type} [Monad m] [LawfulMonad m] (fs : FileSystem m) (path : Text),
        fs.read path = pure (.ok t) → ∃ report : Command.FileReport,
          Command.classifyAll fs [path] .never = pure (.ok ([report], [])) ∧
          report.tokens.map (fun r => (r.line, r.character, r.length)) =
            (Mark.decode (encode toks t)).map
              (fun mark => ((mark.line : Int), (mark.character : Int), mark.length)) := by
  rcases exists_tokens t with ⟨toks, htoks, hapart, hcalls⟩
  -- each token is a call, and an editor marks it where it stands
  have hcovers : ∀ tok ∈ toks, (tok.entry (.ofText t)).mark.Covers t tok := by
    intro tok htok
    rcases hcalls tok htok with ⟨o, w, heq, hsite⟩
    rcases hsite.exists_mark ht heq with ⟨l, c, -, hmark, hcover⟩
    rwa [hmark]
  have hdecode := decode_encode_of_covers hcovers hapart
  refine ⟨toks, htoks, length_encode toks t, ?_, ?_, ?_⟩
  · rw [hdecode, List.forall₂_map_right_iff, List.forall₂_same]
    exact hcovers
  · rw [hdecode]
    refine (pairwise_marks hcovers hapart).imp fun {a b} hlt heq => ?_
    omega
  · intro m _ _ fs path hread
    refine ⟨_, Command.classifyAll_singleton hread htoks, ?_⟩
    rw [hdecode, Command.FileReport.ofTokens, List.map_map, List.map_map]
    refine List.map_congr_left fun tok htok => ?_
    rcases hcalls tok htok with ⟨o, w, heq, hsite⟩
    rcases hsite.exists_mark ht heq with ⟨l, c, hplace, hmark, -⟩
    simp only [Function.comp_apply, hmark, Command.TokenRecord.ofToken, LineIndex.rangeOf, hplace]

/-- A declaration of `f`, and two calls of it on a line that starts with a stray byte and a
character of two UTF-16 units. -/
def strayText : Text :=
  [112, 114, 111, 99, 32, 102, 13, 10, 255, 240, 159, 152, 128, 102, 40, 102, 32, 40]

theorem decode_encode_tokens_strayText : strayText.length < UInt32.size ∧
    ∃ toks, tokens strayText .never = .ok (toks, .never) ∧ (encode toks strayText).length = 10 ∧
      List.Forall₂ (fun tok mark => Mark.Covers strayText tok mark) toks
        [⟨1, 3, 1, 0, 1⟩, ⟨1, 5, 1, 0, 1⟩] ∧
      ∃ report : Command.FileReport,
        Command.classifyAll (FileTree.empty.put [[97]] (.file strayText)).fileSystem [[97]] .never =
          pure (.ok ([report], [])) ∧
        report.tokens.map (fun r => (r.line, r.character, r.length)) = [(1, 3, 1), (1, 5, 1)] := by
  let found : List Token :=
    [⟨.function, .declaration, ⟨13, [102]⟩⟩, ⟨.function, .declaration, ⟨15, [102]⟩⟩]
  have hlt : strayText.length < UInt32.size := by decide
  rcases decode_encode_tokens strayText hlt with ⟨toks, htoks, hlen, hcovers, -, hreport⟩
  have hscan : tokens strayText .never = .ok (found, .never) := by decide +kernel
  obtain rfl : found = toks := (Prod.mk.inj (Except.ok.inj (hscan.symm.trans htoks))).1
  have hsorted : (found.map (Token.entry (.ofText strayText))).Pairwise (·.notAfter ·) := by
    decide +kernel
  have hmarks : Mark.decode (encode found strayText) = [⟨1, 3, 1, 0, 1⟩, ⟨1, 5, 1, 0, 1⟩] :=
    (decode_encode_of_pairwise hsorted).trans (by decide +kernel)
  rw [hmarks] at hcovers hreport
  exact ⟨hlt, found, hscan, hlen, hcovers, hreport _ _ rfl⟩

end CallLight
