import CallLight.Proofs.Server.Documents

/-!
# Changes are made all or none

The changes of one message are tried one after the other, each on the text that the ones before it
left. That text is seen by nobody until the last change is accepted: if one is refused, wherever it
stands in the list, the server is what it was (`didChange_all_or_none`).
-/

namespace CallLight

namespace Change

/-- The text after a change. A change that is refused does nothing. -/
def resultOn (t : Text) (c : Change) : Text := (c.apply t).toOption.getD t

/-- Each change is accepted on the text that the ones before it left. -/
def AllAccepted (changes : List Change) (t : Text) : Prop :=
  ∀ (k : Nat) (c : Change), changes[k]? = some c →
    ∃ t', c.apply ((changes.take k).foldl resultOn t) = .ok t'

theorem allAccepted_nil (t : Text) : AllAccepted [] t := by
  intro k c h
  cases h

theorem allAccepted_cons {c : Change} {cs : List Change} {t : Text} :
    AllAccepted (c :: cs) t ↔ (∃ t', c.apply t = .ok t') ∧ AllAccepted cs (resultOn t c) := by
  constructor
  · intro h
    refine ⟨h 0 c rfl, fun k d hd => ?_⟩
    exact h (k + 1) d hd
  · rintro ⟨hc, hcs⟩ k d hd
    cases k with
    | zero =>
      obtain rfl : c = d := Option.some.inj hd
      exact hc
    | succ k => exact hcs k d hd

theorem resultOn_of_ok {c : Change} {t t' : Text} (h : c.apply t = .ok t') : resultOn t c = t' := by
  rw [resultOn, h]
  rfl

/-- Either all changes are accepted and made, or one of them is refused after those before it were
accepted, and it is the one that is reported. -/
theorem applyAll_cases (i : Nat) (changes : List Change) (t : Text) :
    (AllAccepted changes t ∧ applyAll i changes t = .ok (changes.foldl resultOn t)) ∨
    ∃ k c e, changes[k]? = some c ∧ AllAccepted (changes.take k) t ∧
      c.apply ((changes.take k).foldl resultOn t) = .error e ∧
      applyAll i changes t = .error (i + k, e) := by
  induction changes generalizing i t with
  | nil => exact .inl ⟨allAccepted_nil t, rfl⟩
  | cons c cs ih =>
    rcases hc : c.apply t with e | t'
    · refine .inr ⟨0, c, e, rfl, allAccepted_nil t, hc, ?_⟩
      rw [applyAll, hc]
      rfl
    have hresult := resultOn_of_ok hc
    -- the others are tried on what the first one left
    rcases ih (i + 1) t' with ⟨hall, hok⟩ | ⟨k, d, e, hd, hbefore, hrefused, herror⟩
    · left
      refine ⟨allAccepted_cons.mpr ⟨⟨t', hc⟩, by rwa [hresult]⟩, ?_⟩
      rw [applyAll, hc, List.foldl_cons, hresult]
      exact hok
    · right
      refine ⟨k + 1, d, e, hd, ?_, ?_, ?_⟩
      · exact allAccepted_cons.mpr ⟨⟨t', hc⟩, by rwa [hresult]⟩
      · rw [List.take_succ_cons, List.foldl_cons, hresult]
        exact hrefused
      · rw [applyAll, hc]
        dsimp only
        rw [herror, Nat.add_right_comm, Nat.add_assoc]

end Change

namespace Server

open Change

section Revise

variable {changes : List Change} {d : Document} (version : Int)

theorem revise_of_allAccepted (h : AllAccepted changes d.content) :
    revise version changes d =
      .ok { d with content := changes.foldl resultOn d.content, version } := by
  rcases applyAll_cases 0 changes d.content with ⟨-, hok⟩ | ⟨k, c, e, hc, -, hrefused, -⟩
  · rw [revise, hok]
  · rcases h k c hc with ⟨t', ht'⟩
    rw [hrefused] at ht'
    cases ht'

theorem revise_of_not_allAccepted (h : ¬ AllAccepted changes d.content) :
    ∃ e, revise version changes d = .error e := by
  rcases applyAll_cases 0 changes d.content with ⟨hall, -⟩ | ⟨k, c, e, -, -, -, herror⟩
  · exact absurd hall h
  · exact ⟨_, by rw [revise, herror]⟩

end Revise

section DidChange

variable {s : Server} (hs : s.shutdown = false) (u : Uri) (version : Int) (changes : List Change)
include hs

theorem didChange_of_ok {documents : Store}
    (h : s.documents.update u (revise version changes) = .ok documents) :
    (s.didChange u version changes).result = .ok .nothing ∧
      (s.didChange u version changes).server = { s with documents } := by
  unfold didChange
  simp only [hs, h]
  exact ⟨rfl, rfl⟩

theorem didChange_of_error {e : Store.UpdateError (Nat × InvertedRange)}
    (h : s.documents.update u (revise version changes) = .error e) :
    (s.didChange u version changes).result = .error (notUpdated e) ∧
      (s.didChange u version changes).server = s := by
  unfold didChange
  simp only [hs, h]
  exact ⟨rfl, rfl⟩

end DidChange

/-- The changes of a message are made all or none. They are made if the document is open and each is
accepted in turn; then that document has the changed text and the new version, and nothing else is
different. Otherwise nothing is different at all.

That it is the document of the request that changes rests on the store being `Keyed`, as one that
operations built from an empty one is (`Store.Records.keyed`). -/
theorem didChange_all_or_none (s : Server) (hs : s.shutdown = false) (u : Uri) (version : Int)
    (changes : List Change) :
    ((∃ r, (s.didChange u version changes).result = .ok r) ↔
      ∃ d, s.documents.get? u = some d ∧ AllAccepted changes d.content) ∧
    (s.documents.Keyed → ∀ d, s.documents.get? u = some d → AllAccepted changes d.content →
      ∃ documents, (s.didChange u version changes).server = { s with documents } ∧
        ∀ key, documents.lookup key =
          if key = u.key then
            some ⟨d.uri, d.language, version, changes.foldl resultOn d.content⟩
          else s.documents.lookup key) ∧
    ∀ e, (s.didChange u version changes).result = .error e →
      (s.didChange u version changes).server = s := by
  rcases hd : s.documents.get? u with _ | d
  · -- the document is not open
    have herror := didChange_of_error hs u version changes (Store.update_of_get?_eq_none hd)
    exact ⟨by simp [herror.1], by simp, fun e _ => herror.2⟩
  by_cases hall : AllAccepted changes d.content
  · have hok := didChange_of_ok hs u version changes
      (Store.update_of_ok hd (revise_of_allAccepted version hall))
    refine ⟨by simp [hok.1, hall], ?_, by simp [hok.1]⟩
    rintro hkeyed _ ⟨⟩ -
    refine ⟨_, hok.2, fun key => ?_⟩
    rw [Store.lookup_insert]
    -- the document goes back under the key of the request
    have hkey : d.uri.key = u.key := hkeyed u.key d hd
    simp only [hkey, eq_comm (a := key)]
  · rcases revise_of_not_allAccepted version hall with ⟨e, he⟩
    have herror := didChange_of_error hs u version changes (Store.update_of_error hd he)
    refine ⟨by simp [herror.1, hall], ?_, fun _ _ => herror.2⟩
    rintro - _ ⟨⟩ hall'
    exact absurd hall' hall

/-- A server that has the document `file:x`, which reads `a`. -/
def serverOfX : Server :=
  { fresh .default "1" with documents := Store.empty.insert ⟨Uri.fileScheme ++ [120], [], 1, [97]⟩ }

/-- Makes the text `ab`. -/
def makeAb : Change := ⟨none, [97, 98]⟩

/-- A range that is inverted in `ab` but not in `a`, where both of its ends are the end of the
text. -/
def backwards : Change := ⟨some ⟨⟨0, 2⟩, ⟨0, 1⟩⟩, []⟩

/-- Each of the two changes is accepted by itself, but not the second after the first; and what the
first one did is then not seen. -/
theorem didChange_all_or_none_backwards :
    (serverOfX.didChange [120] 2 [makeAb, backwards]).server = serverOfX ∧
    (∃ r, (serverOfX.didChange [120] 2 [backwards]).result = .ok r) ∧
    ∃ documents, (serverOfX.didChange [120] 2 [makeAb]).server = { serverOfX with documents } ∧
      documents.lookup [120] = some ⟨Uri.fileScheme ++ [120], [], 2, [97, 98]⟩ := by
  have hkeyed : serverOfX.documents.Keyed := Store.keyed_empty.insert _
  have hrefused : (serverOfX.didChange [120] 2 [makeAb, backwards]).result =
      .error (notUpdated (.failed (1, ⟨⟨⟨0, 2⟩, ⟨0, 1⟩⟩⟩))) := by decide +kernel
  have hfirst : ∀ c : Change, (∃ t, c.apply [97] = .ok t) → AllAccepted [c] [97] := fun c hc =>
    allAccepted_cons.mpr ⟨hc, allAccepted_nil _⟩
  refine ⟨?_, ?_, ?_⟩
  · exact (didChange_all_or_none serverOfX rfl [120] 2 [makeAb, backwards]).2.2 _ hrefused
  · refine (didChange_all_or_none serverOfX rfl [120] 2 [backwards]).1.mpr ⟨_, rfl, ?_⟩
    exact hfirst _ ⟨[97], by decide +kernel⟩
  · rcases (didChange_all_or_none serverOfX rfl [120] 2 [makeAb]).2.1 hkeyed _ rfl
      (hfirst _ ⟨_, rfl⟩) with ⟨documents, hserver, hlookup⟩
    exact ⟨documents, hserver, hlookup [120]⟩

end Server

end CallLight
