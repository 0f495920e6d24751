import CallLight.Proofs.Document.Buffer
import CallLight.Proofs.Position.Snapping
import CallLight.Proofs.Server.Requests

/-!
# Only backward ranges are refused

The server compares the ends of a range after it has moved both of them to where there is text. It
could find them in the wrong order there although the editor sent them in the right one, and refuse
a change for nothing, or cut a text at offsets that it does not have. Neither happens, on any bytes:
both maps between places and offsets are monotone, so what is refused was sent backward, and all
other ranges cut the text inside its bounds (`refused_only_if_backward`).
-/

namespace CallLight

/-- The bytes from `i` to `j`; nothing if these are no offsets of the text in this order. -/
def Text.slice? (t : Text) (i j : Nat) : Option Text :=
  if i ≤ j ∧ j ≤ t.length then some ((t.drop i).take (j - i)) else none

/-- Whether a range stops before it starts, as the editor counts. -/
def Range.isBackward (r : Range) : Bool := r.stop.place.before r.start.place

namespace Text

theorem slice?_of_le {t : Text} {i j : Nat} (hij : i ≤ j) (hj : j ≤ t.length) :
    t.slice? i j = some ((t.drop i).take (j - i)) :=
  if_pos ⟨hij, hj⟩

theorem slice?_zero {t : Text} {j : Nat} (hj : j ≤ t.length) : t.slice? 0 j = some (t.take j) := by
  rw [slice?_of_le (Nat.zero_le j) hj, List.drop_zero, Nat.sub_zero]

theorem slice?_length {t : Text} {i : Nat} (hi : i ≤ t.length) :
    t.slice? i t.length = some (t.drop i) := by
  rw [slice?_of_le hi (Nat.le_refl _), List.take_of_length_le (by rw [List.length_drop])]

end Text

/-! ## Changes -/

/-- A change of a range is refused, and then the range is backward, or it replaces what is between
two offsets of the text. -/
theorem Change.apply_cases {c : Change} {r : Range} (h : c.range = some r) (t : Text) :
    (c.apply t = .error ⟨r⟩ ∧ r.isBackward = true) ∨
    ∃ head tail, t.slice? 0 (r.offsets t).1 = some head ∧
      t.slice? (r.offsets t).2 t.length = some tail ∧
      c.apply t = .ok (head ++ c.text ++ tail) := by
  rw [Buffer.apply_of_range h]
  split
  -- offsets in the wrong order come from places in the wrong order
  next hlt => exact .inl ⟨rfl, LineIndex.before_of_offsetAt_lt hlt⟩
  next =>
    have hstart := Text.slice?_zero (LineIndex.offsetAt_le t r.start.place)
    have hstop := Text.slice?_length (LineIndex.offsetAt_le t r.stop.place)
    exact .inr ⟨_, _, hstart, hstop, rfl⟩

/-! ## Requests -/

namespace Server

/-- What comes of a search in a part of a document. -/
def answerIn (d : Document) (s : Span) (c : Cancellation) : Except Rpc.Failure Reply :=
  match Script.tokensIn d.content s c with
  | .error e => .error ((calledOff e).within ("range of document " ++ Text.toStringLossy d.uri))
  | .ok (ts, _) => .ok (.tokens (encode ts d.content))

theorem answerIn_ne_invertedRange (d : Document) (s : Span) (c : Cancellation) :
    answerIn d s c ≠ .error invertedRange := by
  unfold answerIn
  split
  · intro h
    have hcause := congrArg Rpc.Failure.cause (Except.error.inj h)
    cases hcause
  · intro h
    cases h

/-- A request for a part of an open document is refused for its range, and then the range is
backward, or the part is between two offsets of the text. -/
theorem tokensIn_cases {s : Server} {u : Uri} {d : Document} (h : s.document u = .ok d) (r : Range)
    (c : Cancellation) :
    ((s.tokensIn u r c).result = .error invertedRange ∧ r.isBackward = true) ∨
    ∃ part, d.content.slice? (r.offsets d.content).1 (r.offsets d.content).2 = some part ∧
      (s.tokensIn u r c).result = answerIn d ⟨(r.offsets d.content).1, part⟩ c := by
  unfold tokensIn
  rw [h]
  dsimp only
  split
  next hlt => exact .inl ⟨rfl, LineIndex.before_of_offsetAt_lt hlt⟩
  next hle =>
    have hpart := Text.slice?_of_le (Nat.le_of_not_lt hle)
      (LineIndex.offsetAt_le d.content r.stop.place)
    refine .inr ⟨_, hpart, ?_⟩
    -- from here on the search decides
    unfold answerIn
    generalize Script.tokensIn _ _ _ = found
    rcases found with e | ⟨ts, c'⟩ <;> rfl

end Server

/-- On any bytes, the offset of a place grows with the place and is one of the text, and the place
of an offset grows with the offset. So a change of a range is refused only if the range is backward,
and is made otherwise, and a request for a part of a document is refused for its range only if that
is backward. Whenever the text is cut, it is cut at its own offsets, in their order. -/
theorem refused_only_if_backward (t : Text) :
    let ix := LineIndex.ofText t
    (∀ p q : Place, q.before p = false →
      ix.offsetAt p ≤ ix.offsetAt q ∧ ix.offsetAt q ≤ t.length) ∧
    (∀ o o' : Int, o ≤ o' → (ix.placeAt o').before (ix.placeAt o) = false) ∧
    (∀ (c : Change) (r : Range), c.range = some r →
      (∀ e, c.apply t = .error e → r.isBackward = true) ∧
      (r.isBackward = false → ∃ t', c.apply t = .ok t') ∧
      ∀ t', c.apply t = .ok t' → ∃ head tail,
        t.slice? 0 (ix.offsetAt r.start.place) = some head ∧
        t.slice? (ix.offsetAt r.stop.place) t.length = some tail ∧
        t' = head ++ c.text ++ tail) ∧
    ∀ (s : Server) (u : Uri) (d : Document), s.document u = .ok d → d.content = t →
      ∀ (r : Range) (c : Cancellation),
        ((s.tokensIn u r c).result = .error Server.invertedRange → r.isBackward = true) ∧
        ((s.tokensIn u r c).result ≠ .error Server.invertedRange → ∃ part,
          t.slice? (ix.offsetAt r.start.place) (ix.offsetAt r.stop.place) = some part ∧
          (s.tokensIn u r c).result = Server.answerIn d ⟨ix.offsetAt r.start.place, part⟩ c) := by
  intro ix
  refine ⟨?_, fun o o' h => LineIndex.placeAt_mono t h, ?_, ?_⟩
  · intro p q h
    exact ⟨LineIndex.offsetAt_mono t h, LineIndex.offsetAt_le t q⟩
  · intro c r hr
    rcases Change.apply_cases hr t with ⟨herror, hback⟩ | ⟨head, tail, hhead, htail, hok⟩
    · refine ⟨fun _ _ => hback, ?_, ?_⟩
      · intro hnot
        rw [hback] at hnot
        cases hnot
      · intro t' ht'
        rw [herror] at ht'
        cases ht'
    · refine ⟨?_, fun _ => ⟨_, hok⟩, ?_⟩
      · intro e he
        rw [hok] at he
        cases he
      · intro t' ht'
        rw [hok] at ht'
        exact ⟨head, tail, hhead, htail, (Except.ok.inj ht').symm⟩
  · intro s u d hd ht r c
    subst ht
    rcases Server.tokensIn_cases hd r c with ⟨herror, hback⟩ | ⟨part, hpart, hanswer⟩
    · exact ⟨fun _ => hback, fun hne => absurd herror hne⟩
    · refine ⟨?_, fun _ => ⟨part, hpart, hanswer⟩⟩
      intro herror
      rw [hanswer] at herror
      exact absurd herror (Server.answerIn_ne_invertedRange _ _ _)

/-- From a start without its tail to behind the end of the next line. -/
def acrossLines : Range := ⟨⟨0, 2⟩, ⟨1, 5⟩⟩

/-- The same range, sent backward. -/
def backAcrossLines : Range := ⟨⟨1, 5⟩, ⟨0, 2⟩⟩

/-- A server that has `strayTails` open. -/
def tailsServer : Server :=
  { Server.fresh .default "1" with
    documents := Store.empty.insert ⟨[120], [], 1, LineIndex.strayTails⟩ }

/-- A change of the range is made, and a request for it finds five bytes. A change of the same range
the other way round is refused. -/
theorem refused_only_if_backward_strayTails :
    acrossLines.isBackward = false ∧
    (∃ t', Change.apply ⟨some acrossLines, [98]⟩ LineIndex.strayTails = .ok t') ∧
    (∃ part, LineIndex.strayTails.slice? 2 7 = some part ∧
      (tailsServer.tokensIn [120] acrossLines .never).result =
        Server.answerIn ⟨[120], [], 1, LineIndex.strayTails⟩ ⟨2, part⟩ .never) ∧
    Change.apply ⟨some backAcrossLines, [98]⟩ LineIndex.strayTails = .error ⟨backAcrossLines⟩ ∧
    backAcrossLines.isBackward = true ∧
    (LineIndex.ofText LineIndex.strayTails).offsetAt ⟨0, 9⟩ ≤
      (LineIndex.ofText LineIndex.strayTails).offsetAt ⟨1, -1⟩ := by
  have hforward : acrossLines.isBackward = false := by decide
  have hstart : (LineIndex.ofText LineIndex.strayTails).offsetAt acrossLines.start.place = 2 := by
    decide +kernel
  have hstop : (LineIndex.ofText LineIndex.strayTails).offsetAt acrossLines.stop.place = 7 := by
    decide +kernel
  have hrefused : Change.apply ⟨some backAcrossLines, [98]⟩ LineIndex.strayTails =
      .error ⟨backAcrossLines⟩ := by decide +kernel
  rcases refused_only_if_backward LineIndex.strayTails with ⟨hmono, -, hchange, hrequest⟩
  rcases hrequest tailsServer [120] _ rfl rfl acrossLines .never with ⟨hback, hpart⟩
  rw [hstart, hstop] at hpart
  have hne : (tailsServer.tokensIn [120] acrossLines .never).result ≠
      .error Server.invertedRange := by
    intro herror
    rw [hback herror] at hforward
    cases hforward
  exact ⟨hforward, (hchange _ acrossLines rfl).2.1 hforward, hpart hne, hrefused,
    (hchange _ backAcrossLines rfl).1 _ hrefused, (hmono ⟨0, 9⟩ ⟨1, -1⟩ (by decide)).1⟩

end CallLight
