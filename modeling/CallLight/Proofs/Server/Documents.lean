import CallLight.Proofs.Document.Store
import CallLight.Server.Basic

/-!
# What messages do to the documents

A message acts on the store and on the shutdown flag, whatever else it does
(`handle_documents_of_not_shutdown`, `handle_shutdown`). As long as the server is not told to shut
down, a session is the fold of `Store.react` over its messages (`run_documents`).
-/

namespace CallLight

/-- A document with another content. -/
def Document.resave (content : Text) (d : Document) : Except (Nat × InvertedRange) Document :=
  .ok { d with content }

/-- The store after a message to a server that is not shut down. A message that fails leaves it as
it is. -/
def Store.react (s : Store) : Message → Store
  | .didOpen d => s.insert d
  | .didChange u version changes => (s.update u (Server.revise version changes)).toOption.getD s
  | .didClose u => s.erase u
  | .didSave u (some content) => (s.update u (Document.resave content)).toOption.getD s
  | _ => s

namespace Server

/-! ## Requests leave the server alone -/

theorem tokens_server (s : Server) (u : Uri) (c : Cancellation) : (s.tokens u c).server = s := by
  unfold tokens
  dsimp only
  split
  · rfl
  · split <;> rfl

theorem tokensIn_server (s : Server) (u : Uri) (r : Range) (c : Cancellation) :
    (s.tokensIn u r c).server = s := by
  unfold tokensIn
  dsimp only
  split
  · rfl
  · split
    · rfl
    · split <;> rfl

/-! ## The documents -/

theorem start_documents (s : Server) (client : Option ClientInfo)
    (capabilities : ClientCapabilities) :
    (s.start client capabilities).server.documents = s.documents := by
  unfold start
  split <;> rfl

theorem becomeReady_documents (s : Server) (refusal : Option Rpc.Error) :
    (s.becomeReady refusal).server.documents = s.documents := by
  unfold becomeReady
  dsimp only
  split
  · rfl
  · split <;> rfl

theorem didChange_documents {s : Server} (h : s.shutdown = false) (u : Uri) (version : Int)
    (changes : List Change) : (s.didChange u version changes).server.documents =
      (s.documents.update u (revise version changes)).toOption.getD s.documents := by
  unfold didChange
  rw [h]
  rcases s.documents.update u (revise version changes) with e | documents <;> rfl

theorem didSave_documents {s : Server} (h : s.shutdown = false) (u : Uri) (content : Text) :
    (s.didSave u (some content)).server.documents =
      (s.documents.update u (Document.resave content)).toOption.getD s.documents := by
  unfold didSave Document.resave
  dsimp only
  rw [h]
  rcases s.documents.update u _ with e | documents <;> rfl

theorem handle_documents_of_not_shutdown {s : Server} (h : s.shutdown = false)
    (refusal : Option Rpc.Error) (c : Cancellation) (m : Message) :
    (s.handle refusal c m).server.documents = s.documents.react m := by
  -- four messages touch the documents; for each, the flag is down
  cases m with
  | start client capabilities => exact start_documents s client capabilities
  | ready => exact becomeReady_documents s refusal
  | didOpen d => simp [handle, didOpen, h, Store.react]
  | didChange u version changes => exact didChange_documents h u version changes
  | didSave u text =>
    cases text with
    | none => rfl
    | some content => exact didSave_documents h u content
  | tokens u => rw [handle, tokens_server]; rfl
  | tokensIn u r => rw [handle, tokensIn_server]; rfl
  | _ => rfl

/-! ## The shutdown flag -/

/-- The flag is raised by `shutdown` and by nothing else, and never lowered. -/
theorem handle_shutdown (s : Server) (refusal : Option Rpc.Error) (c : Cancellation)
    (m : Message) : (s.handle refusal c m).server.shutdown = (s.shutdown || m == .shutdown) := by
  cases m with
  | shutdown => simp [handle, shutDown]
  | start client capabilities =>
    simp only [handle, start]
    split <;> simp
  | ready =>
    simp only [handle, becomeReady]
    split
    · simp
    · split <;> simp
  | didOpen d =>
    simp only [handle, didOpen]
    split <;> simp
  | didChange u version changes =>
    simp only [handle, didChange]
    split
    · simp
    · split <;> simp
  | didSave u text =>
    simp only [handle, didSave]
    split
    · simp
    · split
      · simp
      · split <;> simp
  | tokens u => simp [handle, tokens_server]
  | tokensIn u r => simp [handle, tokensIn_server]
  | _ => simp [handle, exit, cancel, didClose]

/-! ## Sessions -/

theorem run_cons (s : Server) (m : Message) (ms : List Message) :
    s.run (m :: ms) = (s.handle none .never m).server.run ms := rfl

/-- A session without `shutdown` is the fold of what its messages do to the store. -/
theorem run_documents {s : Server} (h : s.shutdown = false) {ms : List Message}
    (hms : .shutdown ∉ ms) : (s.run ms).documents = ms.foldl Store.react s.documents := by
  induction ms generalizing s with
  | nil => rfl
  | cons m ms ih =>
    rw [List.mem_cons, not_or] at hms
    have hm : (m == .shutdown) = false := by simpa using fun hm => hms.1 hm.symm
    -- the flag stays down, so that the next message finds it down too
    have hflag : (s.handle none .never m).server.shutdown = false := by
      rw [handle_shutdown, h, hm]
      rfl
    rw [run_cons, ih hflag hms.2, handle_documents_of_not_shutdown h, List.foldl_cons]

end Server

end CallLight
