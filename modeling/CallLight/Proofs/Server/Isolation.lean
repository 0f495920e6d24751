import CallLight.Proofs.Server.Sessions

/-!
# Documents do not interfere

What the server holds of a document and answers about it depends on the messages that name the
document and on `shutdown`, and on no others: a session can be purged of the rest without anybody
noticing (`deliver_lookup`). Two sessions that are the same once purged are the same to the document
(`documents_do_not_interfere`), so it does not matter how the messages of two documents are mixed.

The argument is about histories. An operation on another key does not show under this one
(`History.latest_record_of_ne`), and an operation on this key takes alike to alike
(`History.latest_record_congr`).
-/

namespace CallLight

/-! ## Histories, key by key -/

/-- The key that an operation is about. -/
def Operation.key {ε : Type} : Operation ε → Text
  | .store d => d.uri.key
  | .delete u => u.key
  | .update u _ => u.key
  | .get u => u.key

namespace History

variable {ε : Type} {key : Text}

theorem latest_record_of_ne (h : History) {op : Operation ε} (hop : op.key ≠ key) :
    (h.record op).latest key = h.latest key := by
  cases op with
  | store d => exact (latest_write h _ _ _).trans (if_neg hop)
  | delete u => exact (latest_write h _ _ _).trans (if_neg hop)
  | update u f =>
    simp only [record]
    split
    · rfl
    · split
      · rfl
      · exact (latest_write h _ _ _).trans (if_neg hop)
  | get u => rfl

theorem latest_record_congr {h h' : History} {op : Operation ε} (hop : op.key = key)
    (hlatest : h.latest key = h'.latest key) :
    (h.record op).latest key = (h'.record op).latest key := by
  subst hop
  cases op with
  | store d => simp only [record, Operation.key, latest_write, if_true]
  | delete u => simp only [record, Operation.key, latest_write, if_true]
  | update u f =>
    -- the update finds the same document in both, and fails or succeeds alike
    simp only [Operation.key] at hlatest ⊢
    simp only [record, hlatest]
    split
    · exact hlatest
    · split
      · exact hlatest
      · simp only [latest_write, if_true]
  | get u => exact hlatest

/-- What was written last under a key is told by the operations on that key. -/
theorem latest_foldl_record (ops : List (Operation ε)) {h h' : History}
    (hlatest : h.latest key = h'.latest key) : (ops.foldl record h).latest key =
      ((ops.filter (·.key == key)).foldl record h').latest key := by
  induction ops generalizing h h' with
  | nil => exact hlatest
  | cons op ops ih =>
    by_cases hop : op.key = key
    · rw [List.filter_cons_of_pos (by simpa using hop), List.foldl_cons, List.foldl_cons]
      exact ih (latest_record_congr hop hlatest)
    · rw [List.filter_cons_of_neg (by simpa using hop), List.foldl_cons]
      exact ih ((latest_record_of_ne h hop).trans hlatest)

end History

/-! ## Messages, key by key -/

namespace Message

/-- The URI that a message names. -/
def uri? : Message → Option Uri
  | .didOpen d => some d.uri
  | .didChange u _ _ | .didClose u | .didSave u _ | .tokens u | .tokensIn u _ => some u
  | _ => none

/-- The key of the document that a message names. -/
def key? (m : Message) : Option Text := m.uri?.map Uri.key

/-- Whether a message concerns the document under a key: it names the document, or it shuts the
server down. -/
def concerns (key : Text) (m : Message) : Bool := m.key? == some key || m == .shutdown

theorem key?_of_operation? {flag : Bool} {m : Message} {op : Operation (Nat × InvertedRange)}
    (h : m.operation? flag = some op) : m.key? = some op.key := by
  cases m with
  | didOpen d =>
    cases flag <;> cases h
    rfl
  | didChange u version changes =>
    cases flag <;> cases h
    rfl
  | didClose u =>
    cases h
    rfl
  | didSave u text =>
    cases text with
    | none => cases h
    | some content =>
      cases flag <;> cases h
      rfl
  | _ => cases h

/-- A message that names a document concerns that document alone. -/
theorem concerns_of_key? {m : Message} {k : Text} (h : m.key? = some k) (key : Text) :
    m.concerns key = (k == key) := by
  have hne : m ≠ .shutdown := by
    rintro rfl
    cases h
  simp [concerns, h, hne]

theorem filter_operation? (key : Text) (flag : Bool) (m : Message) :
    (m.operation? flag).toList.filter (·.key == key) =
      if m.concerns key then (m.operation? flag).toList else [] := by
  cases hop : m.operation? flag with
  | none => simp
  | some op =>
    rw [concerns_of_key? (key?_of_operation? hop)]
    simp [List.filter_cons]

/-- The operations on a key are those of the messages that concern it. -/
theorem filter_operations (key : Text) (flag : Bool) (ms : List Message) :
    (operations flag ms).filter (·.key == key) = operations flag (ms.filter (·.concerns key)) := by
  induction ms generalizing flag with
  | nil => rfl
  | cons m ms ih =>
    rw [operations, List.filter_append, filter_operation?, ih]
    by_cases hm : m.concerns key = true
    · rw [if_pos hm, List.filter_cons_of_pos hm, operations]
    · -- what does not concern the key leaves the flag alone
      have hne : (m == .shutdown) = false := by
        rw [concerns, Bool.or_eq_true, not_or, Bool.not_eq_true, Bool.not_eq_true] at hm
        exact hm.2
      rw [if_neg hm, List.filter_cons_of_neg hm, hne, Bool.or_false, List.nil_append]

theorem shutdown_mem_filter_iff {key : Text} {ms : List Message} :
    .shutdown ∈ ms.filter (·.concerns key) ↔ .shutdown ∈ ms := by
  rw [List.mem_filter]
  exact and_iff_left (by simp [concerns])

end Message

/-! ## The server -/

namespace Server

/-- What a server has under a key is told by the messages that concern the key. -/
theorem deliver_lookup (config : Config) (version : String) (ds : List Delivery) (key : Text) :
    ((fresh config version).deliver ds).documents.lookup key =
      (History.ofOperations (Message.operations false
        ((ds.map Delivery.message).filter (·.concerns key)))).latest key := by
  rw [(deliver_records config version ds).agree, ← Message.filter_operations]
  exact History.latest_foldl_record _ rfl

theorem deliver_shutdown_fresh (config : Config) (version : String) (ds : List Delivery)
    (key : Text) : ((fresh config version).deliver ds).shutdown = true ↔
      .shutdown ∈ (ds.map Delivery.message).filter (·.concerns key) := by
  rw [deliver_shutdown, Message.shutdown_mem_filter_iff]
  exact or_iff_right Bool.false_ne_true

/-- The answer to a request for tokens is told by the flag and by the document. -/
theorem handle_result_congr {s s' : Server} {q : TokenRequest} (hflag : s.shutdown = s'.shutdown)
    (hdocument : s.documents.get? q.uri = s'.documents.get? q.uri)
    (refusal refusal' : Option Rpc.Error) (c : Cancellation) :
    (s.handle refusal c q.message).result = (s'.handle refusal' c q.message).result := by
  have hsame : s.document q.uri = s'.document q.uri := by
    rw [document, document, hflag, hdocument]
  cases hd : s'.document q.uri with
  | error e =>
    rw [handle_of_document_error s refusal c q (hsame.trans hd),
      handle_of_document_error s' refusal' c q hd]
  | ok d =>
    rcases q with ⟨u, _ | r⟩
    · simp only [TokenRequest.message, handle, tokens, hsame.trans hd, hd]
      split <;> rfl
    · simp only [TokenRequest.message, handle, tokensIn, hsame.trans hd, hd]
      split
      · rfl
      · split <;> rfl

end Server

/-! ## Mixing messages -/

/-- The third list is made of the other two, each in its own order. -/
inductive Interleaving {α : Type} : List α → List α → List α → Prop
  | nil : Interleaving [] [] []
  | left {x : α} {xs ys zs : List α} : Interleaving xs ys zs → Interleaving (x :: xs) ys (x :: zs)
  | right {y : α} {xs ys zs : List α} : Interleaving xs ys zs → Interleaving xs (y :: ys) (y :: zs)

/-- What is picked from an interleaving does not depend on it, if it is picked from one of the two
lists only. -/
theorem Interleaving.filter_eq {α : Type} {p : α → Bool} {xs ys zs : List α}
    (h : Interleaving xs ys zs) (hp : (∀ x ∈ xs, p x = false) ∨ ∀ y ∈ ys, p y = false) :
    zs.filter p = xs.filter p ++ ys.filter p := by
  induction h with
  | nil => rfl
  | @left x xs ys zs _ ih =>
    rcases hp with hp | hp
    · have hx : ¬ p x = true := by simp [hp x (by simp)]
      rw [List.filter_cons_of_neg hx, List.filter_cons_of_neg hx,
        ih (.inl fun y hy => hp y (by simp [hy]))]
    · have ih := ih (.inr hp)
      by_cases hx : p x = true
      · rw [List.filter_cons_of_pos hx, List.filter_cons_of_pos hx, ih, List.cons_append]
      · rw [List.filter_cons_of_neg hx, List.filter_cons_of_neg hx, ih]
  | @right y xs ys zs _ ih =>
    rcases hp with hp | hp
    · have hnil : xs.filter p = [] := by simpa using hp
      have ih := ih (.inl hp)
      rw [hnil, List.nil_append] at ih ⊢
      rw [List.filter_cons, List.filter_cons, ih]
    · have hy : ¬ p y = true := by simp [hp y (by simp)]
      rw [List.filter_cons_of_neg hy, List.filter_cons_of_neg hy,
        ih (.inr fun x hx => hp x (by simp [hx]))]

/-- Stores with the same documents have the same keys. -/
theorem Store.keys_eq_of_lookup {s s' : Store} (hs : s.Distinct) (hs' : s'.Distinct)
    (h : ∀ key, s.lookup key = s'.lookup key) : s.keys = s'.keys := by
  refine keys_eq_of_perm ((List.perm_ext_iff_of_nodup hs hs').mpr fun key => ?_)
  have hmem : key ∈ s.keys ↔ key ∈ s'.keys := by rw [mem_keys_iff, mem_keys_iff, h]
  rwa [keys, keys, List.mem_mergeSort, List.mem_mergeSort] at hmem

/-- Documents do not interfere. If two sessions are the same once they are purged of what does not
concern a document, then both servers have the same document or none, and give the same answers to
requests about it. So the messages of two documents end in the same store however they are mixed. -/
theorem documents_do_not_interfere (config : Config) (version : String) :
    (∀ (ds ds' : List Server.Delivery) (u : Uri),
      (ds.map (·.message)).filter (·.concerns u.key) =
        (ds'.map (·.message)).filter (·.concerns u.key) →
      let s := (Server.fresh config version).deliver ds
      let s' := (Server.fresh config version).deliver ds'
      s.documents.get? u = s'.documents.get? u ∧
      ∀ q : TokenRequest, q.uri.key = u.key →
        ∀ (refusal refusal' : Option Rpc.Error) (c : Cancellation),
          (s.handle refusal c q.message).result = (s'.handle refusal' c q.message).result) ∧
    ∀ (xs ys ds ds' : List Server.Delivery) (k k' : Text), k ≠ k' →
      (∀ x ∈ xs, x.message.key? = some k) → (∀ y ∈ ys, y.message.key? = some k') →
      Interleaving xs ys ds → Interleaving xs ys ds' →
      let s := (Server.fresh config version).deliver ds
      let s' := (Server.fresh config version).deliver ds'
      (∀ key, s.documents.lookup key = s'.documents.lookup key) ∧
      s.documents.keys = s'.documents.keys := by
  constructor
  · intro ds ds' u hsame s s'
    have hlookup : s.documents.lookup u.key = s'.documents.lookup u.key := by
      rw [Server.deliver_lookup, Server.deliver_lookup, hsame]
    have hflag : s.shutdown = s'.shutdown := by
      rw [Bool.eq_iff_iff, Server.deliver_shutdown_fresh config version ds u.key,
        Server.deliver_shutdown_fresh config version ds' u.key, hsame]
    refine ⟨hlookup, fun q hq refusal refusal' c => ?_⟩
    have hdocument : s.documents.get? q.uri = s'.documents.get? q.uri := by
      rw [Store.get?, Store.get?, hq, hlookup]
    exact Server.handle_result_congr hflag hdocument refusal refusal' c
  · intro xs ys ds ds' k k' hne hxs hys hds hds' s s'
    -- a key is not that of both documents, so it picks from one of the lists at most
    have hpick : ∀ key, (∀ x ∈ xs, x.message.concerns key = false) ∨
        ∀ y ∈ ys, y.message.concerns key = false := by
      intro key
      by_cases hkey : k = key
      · right
        intro y hy
        rw [Message.concerns_of_key? (hys y hy), beq_eq_false_iff_ne, ← hkey]
        exact hne.symm
      · left
        intro x hx
        rw [Message.concerns_of_key? (hxs x hx), beq_eq_false_iff_ne]
        exact hkey
    have hlookup : ∀ key, s.documents.lookup key = s'.documents.lookup key := by
      intro key
      have hpicked : ds.filter (·.message.concerns key) = ds'.filter (·.message.concerns key) :=
        (hds.filter_eq (hpick key)).trans (hds'.filter_eq (hpick key)).symm
      rw [Server.deliver_lookup, Server.deliver_lookup, List.filter_map, List.filter_map]
      simp only [Function.comp_def, hpicked]
    refine ⟨hlookup, Store.keys_eq_of_lookup ?_ ?_ hlookup⟩
    · exact (Server.deliver_records config version ds).distinct
    · exact (Server.deliver_records config version ds').distinct

/-- The document `x` is opened and, under another spelling, changed. -/
def messagesOfX : List Message :=
  [.didOpen ⟨[120], [], 1, [97]⟩, .didChange (Uri.fileScheme ++ [120]) 2 [⟨none, [98]⟩]]

/-- The document `y` is opened, and a change of it is refused. -/
def messagesOfY : List Message :=
  [.didOpen ⟨[121], [], 1, [99]⟩, .didChange [121] 2 [⟨some ⟨⟨0, 1⟩, ⟨0, 0⟩⟩, []⟩]]

/-- The messages of `y` among those of `x`. -/
def messagesOfBoth : List Message :=
  [.didOpen ⟨[121], [], 1, [99]⟩, .didOpen ⟨[120], [], 1, [97]⟩,
    .didChange [121] 2 [⟨some ⟨⟨0, 1⟩, ⟨0, 0⟩⟩, []⟩],
    .didChange (Uri.fileScheme ++ [120]) 2 [⟨none, [98]⟩]]

open Server (delivered) in
theorem documents_do_not_interfere_xBesideY :
    let alone := (Server.fresh .default "1").deliver (delivered messagesOfX)
    let beside := (Server.fresh .default "1").deliver (delivered messagesOfBoth)
    let after := (Server.fresh .default "1").deliver (delivered (messagesOfX ++ messagesOfY))
    alone.documents.get? [120] = some ⟨[120], [], 2, [98]⟩ ∧
    beside.documents.get? [120] = some ⟨[120], [], 2, [98]⟩ ∧
    (alone.handle none .never (.tokens [120])).result =
      (beside.handle none .never (.tokens [120])).result ∧
    beside.documents.keys = after.documents.keys := by
  intro alone beside after
  rcases documents_do_not_interfere .default "1" with ⟨hpurged, hmixed⟩
  have halone : alone.documents.get? [120] = some ⟨[120], [], 2, [98]⟩ := by decide +kernel
  have hx := hpurged (delivered messagesOfX) (delivered messagesOfBoth) [120] (by decide +kernel)
  have hboth := hmixed (delivered messagesOfX) (delivered messagesOfY) (delivered messagesOfBoth)
    (delivered (messagesOfX ++ messagesOfY)) [120] [121] (by decide) (by decide +kernel)
    (by decide +kernel) (.right (.left (.right (.left .nil)))) (.left (.left (.right (.right .nil))))
  exact ⟨halone, hx.1.symm.trans halone, hx.2 ⟨[120], none⟩ rfl none none .never, hboth.2⟩

end CallLight
