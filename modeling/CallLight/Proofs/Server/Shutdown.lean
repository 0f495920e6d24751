import CallLight.Proofs.Server.Sessions

/-!
# What is left after shutdown

Each message looks at the shutdown flag for itself, some before they do anything and some not at
all. We show that it comes to this all the same: once the flag is up it stays up, documents can only
be closed, and what is not closed stays as it was (`shutdown_freezes_documents`).
-/

namespace CallLight

/-- The message closes the document under a key. -/
def Message.closes (key : Text) : Message → Bool
  | .didClose u => u.key == key
  | _ => false

theorem Message.any_closes_iff {key : Text} {ms : List Message} :
    ms.any (·.closes key) = true ↔ ∃ u : Uri, .didClose u ∈ ms ∧ u.key = key := by
  rw [List.any_eq_true]
  constructor
  · rintro ⟨m, hm, hcloses⟩
    cases m with
    | didClose u => exact ⟨u, hm, beq_iff_eq.mp hcloses⟩
    | _ => cases hcloses
  · rintro ⟨u, hu, hkey⟩
    exact ⟨.didClose u, hu, beq_iff_eq.mpr hkey⟩

/-! ## The documents -/

namespace Store

theorem lookup_run_operation? (s : Store) (m : Message) (key : Text) :
    (s.run (m.operation? true).toList).lookup key =
      if m.closes key then none else s.lookup key := by
  cases m with
  | didClose u =>
    have herase := s.lookup_erase u key
    simp only [Message.closes, beq_iff_eq]
    exact herase
  | didSave u text => cases text <;> rfl
  | _ => rfl

/-- With the flag up, a document is there if it was there and nothing has closed it since. -/
theorem lookup_run_operations (s : Store) (ms : List Message) (key : Text) :
    (s.run (Message.operations true ms)).lookup key =
      if ms.any (·.closes key) then none else s.lookup key := by
  induction ms generalizing s with
  | nil => rfl
  | cons m ms ih =>
    rw [Message.operations, Bool.true_or, run_append, ih, lookup_run_operation?, List.any_cons]
    cases m.closes key <;> simp

end Store

/-! ## The other fields -/

namespace Server

theorem handle_capabilities_of_shutdown {s : Server} (h : s.shutdown = true)
    (refusal : Option Rpc.Error) (c : Cancellation) (m : Message) :
    (s.handle refusal c m).server.capabilities = s.capabilities := by
  cases m with
  | start client capabilities => simp only [handle, start, if_pos h]
  | ready =>
    simp only [handle, becomeReady]
    split
    · rfl
    · split <;> rfl
  | didOpen d => rw [handle, didOpen, if_pos h]
  | didChange u version changes => rw [handle, didChange, if_pos h]
  | didSave u text =>
    cases text with
    | none => rfl
    | some content => rw [handle, didSave, if_pos h]
  | tokens u => rw [handle, tokens_server]
  | tokensIn u r => rw [handle, tokensIn_server]
  | _ => rfl

theorem deliver_capabilities_of_shutdown {s : Server} (h : s.shutdown = true)
    (ds : List Delivery) : (s.deliver ds).capabilities = s.capabilities := by
  induction ds generalizing s with
  | nil => rfl
  | cons d ds ih =>
    have hflag : (s.handle d.refusal d.cancellation d.message).server.shutdown = true := by
      rw [handle_shutdown, h, Bool.true_or]
    rw [deliver_cons, ih hflag, handle_capabilities_of_shutdown h]

/-- Shutdown freezes the documents. Whatever comes after it, the flag stays up and the capabilities
of the editor stay as they are recorded; every key that is there was there at the time of shutdown
and has the document that it had then; and a key goes if and only if a document is closed under
it. -/
theorem shutdown_freezes_documents (config : Config) (version : String)
    (before after : List Delivery) (refusal : Option Rpc.Error) (c : Cancellation) :
    let s := (fresh config version).deliver (before ++ [⟨.shutdown, refusal, c⟩])
    let s' := s.deliver after
    s'.shutdown = true ∧
    s'.capabilities = s.capabilities ∧
    (∀ key ∈ s'.documents.keys, key ∈ s.documents.keys) ∧
    (∀ key d, s'.documents.lookup key = some d → s.documents.lookup key = some d) ∧
    ∀ key ∈ s.documents.keys,
      (key ∉ s'.documents.keys ↔ ∃ u : Uri, .didClose u ∈ after.map (·.message) ∧ u.key = key) := by
  intro s s'
  have hs : s.shutdown = true := by
    rw [deliver_shutdown]
    right
    simp
  have hlookup : ∀ key, s'.documents.lookup key =
      if (after.map (·.message)).any (·.closes key) then none else s.documents.lookup key := by
    intro key
    rw [deliver_documents, hs, Store.lookup_run_operations]
  have hsame : ∀ key d, s'.documents.lookup key = some d → s.documents.lookup key = some d := by
    intro key d hd
    rw [hlookup] at hd
    split at hd
    · cases hd
    · exact hd
  refine ⟨?_, deliver_capabilities_of_shutdown hs after, ?_, hsame, ?_⟩
  · rw [deliver_shutdown]
    exact .inl hs
  · intro key hkey
    rcases Store.mem_keys_iff.mp hkey with ⟨d, hd⟩
    exact Store.mem_keys_iff.mpr ⟨d, hsame key d hd⟩
  · intro key hkey
    rcases Store.mem_keys_iff.mp hkey with ⟨d, hd⟩
    rw [← Message.any_closes_iff, Store.mem_keys_iff, hlookup, hd]
    cases (after.map (·.message)).any (·.closes key) <;> simp

/-- Opens the documents `file:x` and `y`. -/
def openings : List Delivery :=
  delivered [.didOpen ⟨Uri.fileScheme ++ [120], [], 1, [97]⟩, .didOpen ⟨[121], [], 1, [98]⟩]

/-- Closes `x`, and tries to replace and to save `y`. -/
def lateMessages : List Delivery :=
  delivered [.didClose [120], .didChange [121] 2 [⟨none, []⟩], .didSave [121] (some [])]

/-- After shutdown the document `x` can be closed, also by another name than it was opened by, and
`y` stays as it is. -/
theorem shutdown_freezes_documents_lateMessages :
    let s := (fresh .default "1").deliver (openings ++ [⟨.shutdown, none, .never⟩])
    let s' := s.deliver lateMessages
    [120] ∈ s.documents.keys ∧ [120] ∉ s'.documents.keys ∧
    [121] ∈ s'.documents.keys ∧ s'.documents.lookup [121] = some ⟨[121], [], 1, [98]⟩ := by
  intro s s'
  rcases shutdown_freezes_documents .default "1" openings lateMessages none .never with
    ⟨-, -, -, hsame, hgone⟩
  have hx : s.documents.lookup [120] = some ⟨Uri.fileScheme ++ [120], [], 1, [97]⟩ := by
    decide +kernel
  have hx' := Store.mem_keys_iff.mpr ⟨_, hx⟩
  have hy : s.documents.lookup [121] = some ⟨[121], [], 1, [98]⟩ := by decide +kernel
  have hy' : [121] ∈ s'.documents.keys := by
    by_contra hnot
    rcases (hgone _ (Store.mem_keys_iff.mpr ⟨_, hy⟩)).mp hnot with ⟨u, hu, hkey⟩
    -- the only document that is closed is `x`
    obtain rfl : u = [120] := by simpa [lateMessages, delivered] using hu
    exact absurd hkey (by decide)
  rcases Store.mem_keys_iff.mp hy' with ⟨d, hd⟩
  refine ⟨hx', (hgone _ hx').mpr ⟨[120], ?_, by decide⟩, hy', ?_⟩
  · simp [lateMessages, delivered]
  · rw [hd, ← hsame _ d hd, hy]

end Server

end CallLight
