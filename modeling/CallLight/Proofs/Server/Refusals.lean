import CallLight.Proofs.Server.Sessions
import CallLight.Server.Connection

/-!
# Requests after shutdown

No rule in one place refuses what comes after shutdown: each message has to look at the flag for
itself. Three of the four requests do, and `shutdown` does not. It is answered as if it were the
first one, however often it is repeated (`second_shutdown_answered`); every other request is refused
as an invalid one (`late_request_answer`).
-/

namespace CallLight

/-- The methods that ask for an answer. -/
def requestMethods : List String :=
  ["initialize", "shutdown", "textDocument/semanticTokens/full",
    "textDocument/semanticTokens/range"]

/-- What the client is told of an outcome. -/
def Outcome.answer (resultId : String) (o : Outcome) : Rpc.Answer :=
  match o.result with
  | .ok reply => .result (reply.json resultId)
  | .error f => .error f.toError none

namespace Connection

/-! ## The connection -/

/-- Writing to the log leaves the server alone. -/
theorem log_server (c : Connection) (rs : List Log.Record) : (c.log rs).1.server = c.server := by
  induction rs generalizing c with
  | nil => rfl
  | cons r rs ih =>
    unfold log
    split
    · exact ih c
    · -- a record that is shown changes the forwarder and nothing else
      exact ih _

/-- A request that is understood is answered with what comes of its message. -/
theorem handle_response (c : Connection) (refusal : Option Rpc.Error) (resultId : String)
    {q : Rpc.Request} {id : Text} {method : String} {m : Message} (hid : q.id = some id)
    (hmethod : q.method = some method) (hm : Message.decode method q.params = .ok m) :
    (c.handle refusal resultId q).2.2 =
      some ⟨id, (c.server.handle refusal .never m).answer resultId⟩ := by
  unfold handle
  simp only [hmethod, hid, hm, Option.map_some]
  rw [log_server]
  rfl

end Connection

/-! ## The messages of requests -/

theorem Message.exists_of_map_eq_ok {α : Type} {x : Except Rejection α} {f : α → Message}
    {m : Message} (h : x.map f = .ok m) : ∃ a, m = f a := by
  cases x with
  | error e => cases h
  | ok a => exact ⟨a, (Except.ok.inj h).symm⟩

/-- A request is `shutdown`, the beginning of a session, or a request for tokens. -/
theorem Message.decode_request {method : String} (hmethod : method ∈ requestMethods)
    {params : Option Text} {m : Message} (h : decode method params = .ok m) :
    (method = "shutdown" ∧ m = .shutdown) ∨
    (method ≠ "shutdown" ∧
      ((∃ client capabilities, m = .start client capabilities) ∨
        ∃ q : TokenRequest, m = q.message)) := by
  simp only [requestMethods, List.mem_cons, List.not_mem_nil, or_false] at hmethod
  rcases hmethod with rfl | rfl | rfl | rfl
  · rcases exists_of_map_eq_ok h with ⟨⟨client, capabilities⟩, rfl⟩
    exact .inr ⟨by decide, .inl ⟨client, capabilities, rfl⟩⟩
  · exact .inl ⟨rfl, (Except.ok.inj h).symm⟩
  · rcases exists_of_map_eq_ok h with ⟨u, rfl⟩
    exact .inr ⟨by decide, .inr ⟨⟨u, none⟩, rfl⟩⟩
  · rcases exists_of_map_eq_ok h with ⟨⟨u, r⟩, rfl⟩
    exact .inr ⟨by decide, .inr ⟨⟨u, some r⟩, rfl⟩⟩

/-! ## The server -/

namespace Server

theorem handle_start_of_shutdown {s : Server} (hs : s.shutdown = true) (refusal : Option Rpc.Error)
    (c : Cancellation) (client : Option ClientInfo) (capabilities : ClientCapabilities) :
    (s.handle refusal c (.start client capabilities)).result = .error shuttingDown := by
  simp only [handle, start, if_pos hs]

/-- What comes of a request after shutdown. -/
theorem handle_request_of_shutdown {s : Server} (hs : s.shutdown = true)
    (refusal : Option Rpc.Error) (c : Cancellation) {method : String}
    (hmethod : method ∈ requestMethods) {params : Option Text} {m : Message}
    (hm : Message.decode method params = .ok m) :
    (s.handle refusal c m).result =
      if method = "shutdown" then .ok .nothing else .error shuttingDown := by
  rcases Message.decode_request hmethod hm with
    ⟨heq, rfl⟩ | ⟨hne, ⟨client, capabilities, rfl⟩ | ⟨q, rfl⟩⟩
  · rw [if_pos heq]
    rfl
  · rw [if_neg hne, handle_start_of_shutdown hs]
  · rw [if_neg hne, handle_of_document_error s refusal c q (document_of_shutdown hs q.uri)]

theorem toError_shuttingDown :
    shuttingDown.toError = ⟨-32600, "[-32600] server is shutting down"⟩ := by
  decide +kernel

end Server

/-- What is answered to a request that comes after shutdown, whatever has come before and in
between. A request is refused as an invalid one, unless it is `shutdown` again, which is answered
like the first. -/
theorem late_request_answer (config : Config) (version : String) (ds : List Server.Delivery)
    (hshutdown : .shutdown ∈ ds.map (·.message)) (c : Connection)
    (hc : c.server = (Server.fresh config version).deliver ds) (q : Rpc.Request) (id : Text)
    (hid : q.id = some id) (method : String) (hq : q.method = some method)
    (hmethod : method ∈ requestMethods) (m : Message)
    (hm : Message.decode method q.params = .ok m) (refusal : Option Rpc.Error)
    (resultId : String) :
    (c.handle refusal resultId q).2.2 = some ⟨id,
      if method = "shutdown" then .result .null
      else .error ⟨-32600, "[-32600] server is shutting down"⟩ none⟩ := by
  -- the flag is up, whatever came after `shutdown`
  have hs : c.server.shutdown = true := by
    rw [hc, Server.deliver_shutdown]
    exact .inr hshutdown
  rw [c.handle_response refusal resultId hid hq hm, Outcome.answer,
    Server.handle_request_of_shutdown hs refusal .never hmethod hm]
  by_cases heq : method = "shutdown"
  · rw [if_pos heq, if_pos heq]
    rfl
  · rw [if_neg heq, if_neg heq]
    dsimp only
    rw [Server.toError_shuttingDown]

/-- A connection on which `shutdown` has been handled. -/
def lateConnection : Connection :=
  { (Connection.establish .default "1" "x" .info).1 with
    server := (Server.fresh .default "1").deliver (Server.delivered [.shutdown]) }

/-- A request without parameters. -/
def bareRequest (method : String) : Rpc.Request := ⟨some [50], some method, none, none⟩

theorem late_request_answer_initialize :
    "initialize" ∈ requestMethods ∧
    Message.decode "initialize" none = .ok (.start none ⟨none⟩) ∧
    (lateConnection.handle none "" (bareRequest "initialize")).2.2 =
      some ⟨[50], .error ⟨-32600, "[-32600] server is shutting down"⟩ none⟩ := by
  have hmethod : "initialize" ∈ requestMethods := by decide
  have hm : Message.decode "initialize" none = .ok (.start none ⟨none⟩) := rfl
  refine ⟨hmethod, hm, ?_⟩
  have hanswer := late_request_answer .default "1" (Server.delivered [.shutdown]) (by decide)
    lateConnection rfl (bareRequest "initialize") [50] rfl "initialize" rfl hmethod _ hm none ""
  rwa [if_neg (by decide)] at hanswer

/-- The second `shutdown` is not refused. -/
theorem second_shutdown_answered :
    .shutdown ∈ (Server.delivered [.shutdown]).map (·.message) ∧
    lateConnection.server = (Server.fresh .default "1").deliver (Server.delivered [.shutdown]) ∧
    "shutdown" ∈ requestMethods ∧
    Message.decode "shutdown" none = .ok .shutdown ∧
    (lateConnection.handle none "" (bareRequest "shutdown")).2.2 = some ⟨[50], .result .null⟩ := by
  have hm : Message.decode "shutdown" (bareRequest "shutdown").params = .ok .shutdown := rfl
  refine ⟨by decide, rfl, by decide, hm, ?_⟩
  exact lateConnection.handle_response none "" (q := bareRequest "shutdown") rfl rfl hm

end CallLight
