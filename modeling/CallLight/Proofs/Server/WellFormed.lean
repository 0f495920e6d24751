import CallLight.Proofs.Document.Buffer
import CallLight.Proofs.Position.Boundaries
import CallLight.Proofs.Server.Sessions

/-!
# Documents stay well-formed

Changes are cut into a text at byte offsets. An editor that sends well-formed text cannot break a
document by them, whatever ranges it sends: both ends of a range fall between characters
(`LineIndex.exists_offsetAt`), so that what is put together is made of characters again
(`Change.isValid_of_apply`).

That a property of documents lasts through a session is shown once, for any property that the
operations on the store keep (`Store.Holds.run`).
-/

namespace CallLight

/-! ## Changes -/

theorem Change.isValid_of_apply {c : Change} {t t' : Text} (ht : t.isValid = true)
    (hc : c.text.isValid = true) (h : c.apply t = .ok t') : t'.isValid = true := by
  rcases Text.isValid_iff.mp hc with ⟨new, hnew⟩
  rcases Text.isValid_iff.mp ht with ⟨cs, rfl⟩
  rcases hrange : c.range with _ | r
  · rw [apply, hrange] at h
    rw [← Except.ok.inj h]
    exact hc
  rcases LineIndex.exists_offsetAt cs r.start.place with ⟨before, after, hcs, hstart, -⟩
  rcases LineIndex.exists_offsetAt cs r.stop.place with ⟨before', after', hcs', hstop, -⟩
  rw [Buffer.apply_of_range hrange, hstart, hstop] at h
  split at h
  · cases h
  -- what is kept on either side is made of whole characters
  have htake : (Text.ofChars cs).take (Text.ofChars before).length = Text.ofChars before := by
    rw [hcs, Text.ofChars_append, List.take_left]
  have hdrop : (Text.ofChars cs).drop (Text.ofChars before').length = Text.ofChars after' := by
    rw [hcs', Text.ofChars_append, List.drop_left]
  rw [htake, hdrop, hnew] at h
  refine Text.isValid_iff.mpr ⟨before ++ new ++ after', ?_⟩
  rw [← Except.ok.inj h, Text.ofChars_append, Text.ofChars_append]

theorem isValid_of_applyAll {changes : List Change} {t t' : Text} {i : Nat}
    (ht : t.isValid = true) (hchanges : ∀ c ∈ changes, c.text.isValid = true)
    (h : applyAll i changes t = .ok t') : t'.isValid = true := by
  induction changes generalizing t i with
  | nil =>
    rw [← Except.ok.inj h]
    exact ht
  | cons c changes ih =>
    rw [applyAll] at h
    split at h
    · cases h
    next t₁ happly =>
      have ht₁ := Change.isValid_of_apply ht (hchanges c List.mem_cons_self) happly
      exact ih ht₁ (fun c' hc' => hchanges c' (List.mem_cons_of_mem _ hc')) h

/-! ## Properties that operations keep -/

/-- Every document has a property. -/
def Store.Holds (P : Document → Prop) (s : Store) : Prop :=
  ∀ key d, s.lookup key = some d → P d

/-- An operation makes documents with the property out of documents with the property. -/
def Operation.Keeps {ε : Type} (P : Document → Prop) : Operation ε → Prop
  | .store d => P d
  | .update _ f => ∀ d d', P d → f.apply d = .ok d' → P d'
  | _ => True

namespace Store

variable {ε : Type} {P : Document → Prop} {s : Store}

theorem holds_empty : empty.Holds P := by
  intro key d h
  cases h

theorem Holds.insert (h : s.Holds P) {d : Document} (hd : P d) : (s.insert d).Holds P := by
  intro key d' hd'
  rw [lookup_insert] at hd'
  split at hd'
  · rw [← Option.some.inj hd']
    exact hd
  · exact h key d' hd'

theorem Holds.erase (h : s.Holds P) (u : Uri) : (s.erase u).Holds P := by
  intro key d hd
  rw [lookup_erase] at hd
  split at hd
  · cases hd
  · exact h key d hd

theorem Holds.update (h : s.Holds P) (u : Uri) {f : Revision ε}
    (hf : ∀ d d', P d → f.apply d = .ok d' → P d') : (s.perform (.update u f)).Holds P := by
  rw [perform]
  rcases hd : s.get? u with _ | d
  · rw [update_of_get?_eq_none hd]
    exact h
  rcases hfd : f.apply d with e | d'
  · rw [update_of_error hd hfd]
    exact h
  · rw [update_of_ok hd hfd]
    exact h.insert (hf d d' (h u.key d hd) hfd)

theorem Holds.perform (h : s.Holds P) {op : Operation ε} (hop : op.Keeps P) :
    (s.perform op).Holds P := by
  cases op with
  | store d => exact h.insert hop
  | delete u => exact h.erase u
  | update u f => exact h.update u hop
  | get u => exact h

theorem Holds.run (h : s.Holds P) {ops : List (Operation ε)} (hops : ∀ op ∈ ops, op.Keeps P) :
    (s.run ops).Holds P := by
  induction ops generalizing s with
  | nil => exact h
  | cons op ops ih =>
    have hstep := h.perform (hops op List.mem_cons_self)
    exact ih hstep fun op' hop' => hops op' (List.mem_cons_of_mem _ hop')

end Store

/-! ## Sessions -/

/-- The document is well-formed UTF-8. -/
def Document.IsWellFormed (d : Document) : Prop := d.content.isValid = true

/-- The texts that a message brings into documents. -/
def Message.texts : Message → List Text
  | .didOpen d => [d.content]
  | .didChange _ _ changes => changes.map Change.text
  | .didSave _ text => text.toList
  | _ => []

/-- Messages with well-formed texts keep documents well-formed. -/
theorem Message.keeps_of_operation? {m : Message} (hm : ∀ t ∈ m.texts, t.isValid = true)
    {flag : Bool} {op : Operation (Nat × InvertedRange)} (h : m.operation? flag = some op) :
    op.Keeps Document.IsWellFormed := by
  cases m with
  | didOpen d =>
    cases flag <;> cases h
    exact hm d.content List.mem_cons_self
  | didChange u version changes =>
    cases flag <;> cases h
    intro d d' hd happly
    simp only [Revision.ofChanges, Server.revise] at happly
    split at happly
    next content hcontent =>
      rw [← Except.ok.inj happly]
      exact isValid_of_applyAll hd (fun c hc => hm c.text (List.mem_map_of_mem hc)) hcontent
    next => cases happly
  | didClose u =>
    cases h
    trivial
  | didSave u text =>
    cases text with
    | none => cases h
    | some content =>
      cases flag <;> cases h
      intro d d' _ happly
      rw [← Except.ok.inj happly]
      exact hm content List.mem_cons_self
  | _ => cases h

/-- Documents stay well-formed: if all texts that a server receives are well-formed, so is every
document that it has, whatever ranges it was sent. This is because in a well-formed text the offset
of every place is one in the text that stands between two characters, and not between the carriage
return and the line feed of a line break. -/
theorem documents_stay_wellFormed (config : Config) (version : String)
    (ds : List Server.Delivery) (hds : ∀ d ∈ ds, ∀ t ∈ d.message.texts, t.isValid = true) :
    (∀ key d, ((Server.fresh config version).deliver ds).documents.lookup key = some d →
      d.content.isValid = true) ∧
    ∀ t : Text, t.isValid = true → ∀ p : Place,
      (LineIndex.ofText t).offsetAt p ≤ t.length ∧
      ∃ before after : List Char, t = Text.ofChars (before ++ after) ∧
        (LineIndex.ofText t).offsetAt p = (Text.ofChars before).length ∧
        ¬ (before.getLast? = some '\r' ∧ after.head? = some '\n') := by
  constructor
  · rw [Server.deliver_documents]
    refine Store.Holds.run Store.holds_empty fun op hop => ?_
    rcases Message.exists_of_mem_operations hop with ⟨m, hm, flag, hoperation⟩
    rcases List.mem_map.mp hm with ⟨d, hd, rfl⟩
    exact Message.keeps_of_operation? (hds d hd) hoperation
  · intro t ht p
    rcases Text.isValid_iff.mp ht with ⟨cs, rfl⟩
    rcases LineIndex.exists_offsetAt cs p with ⟨before, after, rfl, hoffset, hsplits⟩
    exact ⟨LineIndex.offsetAt_le _ p, before, after, rfl, hoffset, hsplits⟩

/-- The document `file:x` reads `😀`, and an editor puts an `a` between the halves of the surrogate
pair of the character. -/
def insertionIntoPair : List Server.Delivery :=
  Server.delivered
    [.didOpen ⟨Uri.fileScheme ++ [120], [], 1, [240, 159, 152, 128]⟩,
     .didChange (Uri.fileScheme ++ [120]) 2 [⟨some ⟨⟨0, 1⟩, ⟨0, 1⟩⟩, [97]⟩]]

/-- The `a` comes to stand behind the character. -/
theorem documents_stay_wellFormed_insertionIntoPair :
    let s := (Server.fresh .default "1").deliver insertionIntoPair
    let d : Document := ⟨Uri.fileScheme ++ [120], [], 2, [240, 159, 152, 128, 97]⟩
    s.documents.lookup [120] = some d ∧ d.content.isValid = true := by
  intro s d
  have hlookup : s.documents.lookup [120] = some d := by decide +kernel
  have htexts : ∀ d ∈ insertionIntoPair, ∀ t ∈ d.message.texts, t.isValid = true := by
    intro d hd t ht
    have hall : insertionIntoPair.all (·.message.texts.all Text.isValid) = true := by
      decide +kernel
    exact List.all_eq_true.mp (List.all_eq_true.mp hall d hd) t ht
  exact ⟨hlookup, (documents_stay_wellFormed .default "1" insertionIntoPair htexts).1 _ d hlookup⟩

end CallLight
