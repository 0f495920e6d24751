import CallLight.Proofs.Document.History
import CallLight.Proofs.Server.Requests

/-!
# What a session does to the store

Each message comes to at most one operation on the store, and which one depends on the message and
on the shutdown flag alone (`Message.operation?`). So the store of a server is what the operations
of its messages make of an empty store (`deliver_documents`), and what is known of every such store
is known of every server: documents stand under their own keys, and no key stands twice
(`deliver_records`).
-/

namespace CallLight

/-- The changes of a message leave the URI alone. -/
def Revision.ofChanges (version : Int) (changes : List Change) :
    Revision (Nat × InvertedRange) where
  apply := Server.revise version changes
  uri_eq := by
    intro d d' h
    unfold Server.revise at h
    split at h
    · rw [← Except.ok.inj h]
    · cases h

/-- So does the text of a document that was saved. -/
def Revision.ofContent (content : Text) : Revision (Nat × InvertedRange) where
  apply := Document.resave content
  uri_eq := by
    intro d d' h
    rw [← Except.ok.inj h]

/-- What a message does to the store. Once the flag is up, documents are only closed. -/
def Message.operation? (flag : Bool) : Message → Option (Operation (Nat × InvertedRange))
  | .didClose u => some (.delete u)
  | .didOpen d => if flag then none else some (.store d)
  | .didChange u version changes =>
    if flag then none else some (.update u (.ofChanges version changes))
  | .didSave u (some content) => if flag then none else some (.update u (.ofContent content))
  | _ => none

/-- What messages do to the store, one after the other. -/
def Message.operations : Bool → List Message → List (Operation (Nat × InvertedRange))
  | _, [] => []
  | flag, m :: ms => (m.operation? flag).toList ++ operations (flag || m == .shutdown) ms

/-- Each operation is that of a message. -/
theorem Message.exists_of_mem_operations {flag : Bool} {ms : List Message}
    {op : Operation (Nat × InvertedRange)} (h : op ∈ operations flag ms) :
    ∃ m ∈ ms, ∃ flag', m.operation? flag' = some op := by
  induction ms generalizing flag with
  | nil => cases h
  | cons m ms ih =>
    rcases List.mem_append.mp h with hop | hop
    · exact ⟨m, List.mem_cons_self, flag, Option.mem_toList.mp hop⟩
    · rcases ih hop with ⟨m', hm', hop'⟩
      exact ⟨m', List.mem_cons_of_mem _ hm', hop'⟩

namespace Store

theorem run_append {ε : Type} (s : Store) (ops ops' : List (Operation ε)) :
    s.run (ops ++ ops') = (s.run ops).run ops' :=
  List.foldl_append

theorem react_eq_run (s : Store) (m : Message) : s.react m = s.run (m.operation? false).toList := by
  cases m with
  | didSave u text => cases text <;> rfl
  | _ => rfl

end Store

namespace Server

/-- Messages that are delivered while nothing is refused or called off. -/
def delivered (ms : List Message) : List Delivery := ms.map fun m => ⟨m, none, .never⟩

/-! ## One message -/

theorem handle_documents_of_shutdown {s : Server} (h : s.shutdown = true)
    (refusal : Option Rpc.Error) (c : Cancellation) (m : Message) :
    (s.handle refusal c m).server.documents = s.documents.run (m.operation? true).toList := by
  cases m with
  | start client capabilities => exact start_documents s client capabilities
  | ready => exact becomeReady_documents s refusal
  | didOpen d =>
    rw [handle, didOpen, if_pos h]
    rfl
  | didChange u version changes =>
    rw [handle, didChange, if_pos h]
    rfl
  | didSave u text =>
    cases text with
    | none => rfl
    | some content =>
      rw [handle, didSave, if_pos h]
      rfl
  | tokens u =>
    rw [handle, tokens_server]
    rfl
  | tokensIn u r =>
    rw [handle, tokensIn_server]
    rfl
  | _ => rfl

theorem handle_documents (s : Server) (refusal : Option Rpc.Error) (c : Cancellation)
    (m : Message) : (s.handle refusal c m).server.documents =
      s.documents.run (m.operation? s.shutdown).toList := by
  cases hs : s.shutdown with
  | true => exact handle_documents_of_shutdown hs refusal c m
  | false => rw [handle_documents_of_not_shutdown hs, Store.react_eq_run]

/-! ## Sessions -/

theorem deliver_cons (s : Server) (d : Delivery) (ds : List Delivery) :
    s.deliver (d :: ds) = (s.handle d.refusal d.cancellation d.message).server.deliver ds := rfl

/-- The store after messages is what their operations make of the store before them. -/
theorem deliver_documents (s : Server) (ds : List Delivery) : (s.deliver ds).documents =
    s.documents.run (Message.operations s.shutdown (ds.map Delivery.message)) := by
  induction ds generalizing s with
  | nil => rfl
  | cons d ds ih =>
    -- the next message finds the flag that this one left
    rw [deliver_cons, ih, handle_documents, handle_shutdown, List.map_cons, Message.operations,
      Store.run_append]

/-- The store of a server has a history. -/
theorem deliver_records (config : Config) (version : String) (ds : List Delivery) :
    ((fresh config version).deliver ds).documents.Records
      (.ofOperations (Message.operations false (ds.map Delivery.message))) := by
  rw [deliver_documents]
  exact Store.records_empty.run _

end Server

end CallLight
