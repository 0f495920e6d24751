import CallLight.Proofs.Script.Checks
import CallLight.Proofs.Server.Documents

/-!
# What comes of a request for tokens

A request can fail for four reasons: the server shuts down, the document is not open, the range is
inverted, or the search is called off. The first that applies decides, by its code, and otherwise
the answer is complete; there is nothing in between, however late the search is called off
(`tokenRequest_outcome`). What a request comes to is said once for whole documents and for parts of
them, by one lemma for each reason and one for the answer (`Server.handle_of_tokens`).
-/

namespace CallLight

/-- A request for the tokens of a document, or of a part of it. -/
structure TokenRequest where
  uri : Uri
  range : Option Range

namespace TokenRequest

/-- The request as a message. -/
def message : TokenRequest → Message
  | ⟨u, none⟩ => .tokens u
  | ⟨u, some r⟩ => .tokensIn u r

/-- The request is for a part of the text that ends before it starts. -/
def Inverted (q : TokenRequest) (t : Text) : Prop :=
  ∃ r, q.range = some r ∧
    (LineIndex.ofText t).offsetAt r.stop.place < (LineIndex.ofText t).offsetAt r.start.place

end TokenRequest

/-- The text between the ends of a range. -/
def Range.span (r : Range) (t : Text) : Span :=
  ⟨(r.offsets t).1, (t.drop (r.offsets t).1).take ((r.offsets t).2 - (r.offsets t).1)⟩

/-- The tokens of a text that a request asks for. -/
def TokenRequest.select (q : TokenRequest) (t : Text) (toks : List Token) : List Token :=
  match q.range with
  | none => toks
  | some r => toks.filter (·.span.overlaps (r.span t))

/-- The code by which the client is told that a request failed; nothing if it did not. -/
def Outcome.code? (o : Outcome) : Option Int :=
  match o.result with
  | .ok _ => none
  | .error f => some f.toError.code

namespace Server

/-! ## Sessions -/

/-- A message, with the answer of the editor to a registration and when the work is called off. -/
structure Delivery where
  message : Message
  refusal : Option Rpc.Error
  cancellation : Cancellation

/-- The state after messages. -/
def deliver (s : Server) (ds : List Delivery) : Server :=
  ds.foldl (fun s d => (s.handle d.refusal d.cancellation d.message).server) s

/-- The server shuts down if and only if it was told to. -/
theorem deliver_shutdown (s : Server) (ds : List Delivery) :
    (s.deliver ds).shutdown = true ↔ s.shutdown = true ∨ .shutdown ∈ ds.map Delivery.message := by
  induction ds generalizing s with
  | nil => simp [deliver]
  | cons d ds ih =>
    have hstep : s.deliver (d :: ds) =
        (s.handle d.refusal d.cancellation d.message).server.deliver ds := rfl
    rw [hstep, ih, handle_shutdown, Bool.or_eq_true, beq_iff_eq, List.map_cons, List.mem_cons,
      or_assoc, eq_comm (a := d.message)]

/-! ## One request -/

section Request

variable (s : Server) (refusal : Option Rpc.Error) (c : Cancellation) (q : TokenRequest)

theorem handle_message_server : (s.handle refusal c q.message).server = s := by
  rcases q with ⟨u, _ | r⟩
  · exact tokens_server s u c
  · exact tokensIn_server s u r c

theorem handle_of_document_error {e : Rpc.Failure} (h : s.document q.uri = .error e) :
    (s.handle refusal c q.message).result = .error e := by
  rcases q with ⟨u, _ | r⟩
  · simp only [TokenRequest.message, handle, tokens, h]
  · simp only [TokenRequest.message, handle, tokensIn, h]

theorem handle_of_inverted {d : Document} (h : s.document q.uri = .ok d)
    (hq : q.Inverted d.content) : (s.handle refusal c q.message).result = .error invertedRange := by
  rcases q with ⟨u, _ | r⟩
  · rcases hq with ⟨r, hr, -⟩
    cases hr
  · rcases hq with ⟨_, ⟨⟩, hlt⟩
    simp only [TokenRequest.message, handle, tokensIn, h, Range.offsets, hlt, if_true]

theorem handle_of_called_off {d : Document} (h : s.document q.uri = .ok d)
    (hq : ¬ q.Inverted d.content) {e : Script.Canceled}
    (htokens : Script.tokens d.content c = .error e) :
    ∃ context, (s.handle refusal c q.message).result = .error ((calledOff e).within context) := by
  rcases q with ⟨u, _ | r⟩
  · refine ⟨"full document " ++ Text.toStringLossy d.uri, ?_⟩
    simp only [TokenRequest.message, handle, tokens, h, htokens]
  · refine ⟨"range of document " ++ Text.toStringLossy d.uri, ?_⟩
    have hle := fun hlt => hq ⟨r, rfl, hlt⟩
    simp only [TokenRequest.message, handle, tokensIn, h, Range.offsets, if_neg hle,
      Script.tokensIn, htokens]

theorem handle_of_tokens {d : Document} (h : s.document q.uri = .ok d)
    (hq : ¬ q.Inverted d.content) {toks : List Token} {c' : Cancellation}
    (htokens : Script.tokens d.content c = .ok (toks, c')) :
    (s.handle refusal c q.message).result =
      .ok (.tokens (encode (q.select d.content toks) d.content)) := by
  rcases q with ⟨u, _ | r⟩
  · simp only [TokenRequest.message, handle, tokens, h, htokens, TokenRequest.select]
  · have hle := fun hlt => hq ⟨r, rfl, hlt⟩
    simp only [TokenRequest.message, handle, tokensIn, h, Range.offsets, if_neg hle,
      Script.tokensIn, htokens, TokenRequest.select, Range.span]

end Request

theorem document_of_shutdown {s : Server} (hs : s.shutdown = true) (u : Uri) :
    s.document u = .error shuttingDown := by
  rw [document, if_pos hs]

theorem document_of_get?_eq_none {s : Server} (hs : s.shutdown = false) {u : Uri}
    (hu : s.documents.get? u = none) : s.document u = .error (notOpen u) := by
  simp only [document, hs, hu]
  rfl

theorem document_of_get? {s : Server} (hs : s.shutdown = false) {u : Uri} {d : Document}
    (hd : s.documents.get? u = some d) : s.document u = .ok d := by
  simp only [document, hs, hd]
  rfl

end Server

theorem Outcome.code?_of_error {o : Outcome} {f : Rpc.Failure} (h : o.result = .error f) :
    o.code? = some f.cause.code := by
  rw [code?, h]
  rfl

theorem Outcome.code?_of_ok {o : Outcome} {r : Reply} (h : o.result = .ok r) : o.code? = none := by
  rw [code?, h]

/-- What comes of a request for tokens that is called off after `n` checks, in any state that a
server can be in. It is refused if the server was told to shut down, else it is wrong if its
document is not open or its range is inverted, else it is called off if the search needs more checks
than these, and else it has the answer of a request that is not called off. There is no other
outcome, and the server stays as it is. -/
theorem tokenRequest_outcome (config : Config) (version : String) (ds : List Server.Delivery)
    (q : TokenRequest) (refusal : Option Rpc.Error) (n : Nat) :
    let s := (Server.fresh config version).deliver ds
    let o := s.handle refusal (.after n) q.message
    let needed (t : Text) := (Script.declaredOffsets t).ncard + (Script.callOffsets t).ncard + 2
    o.server = s ∧
    (o.code? = some (-32600) ↔ .shutdown ∈ ds.map (·.message)) ∧
    (o.code? = some (-32602) ↔ .shutdown ∉ ds.map (·.message) ∧
      (s.documents.get? q.uri = none ∨
        ∃ d, s.documents.get? q.uri = some d ∧ q.Inverted d.content)) ∧
    (o.code? = some (-32800) ↔ .shutdown ∉ ds.map (·.message) ∧
      ∃ d, s.documents.get? q.uri = some d ∧ ¬ q.Inverted d.content ∧ n < needed d.content) ∧
    (o.code? = none ↔ .shutdown ∉ ds.map (·.message) ∧
      ∃ d, s.documents.get? q.uri = some d ∧ ¬ q.Inverted d.content ∧ needed d.content ≤ n) ∧
    (o.code? = none → ∃ data, o.result = .ok (.tokens data) ∧
      (s.handle refusal .never q.message).result = .ok (.tokens data)) ∧
    o.code? ≠ some (-32603) := by
  intro s o needed
  have hshutdown : s.shutdown = true ↔ .shutdown ∈ ds.map (·.message) :=
    (Server.deliver_shutdown _ ds).trans (or_iff_right Bool.false_ne_true)
  rw [← hshutdown]
  refine ⟨s.handle_message_server refusal (.after n) q, ?_⟩
  by_cases hs : s.shutdown = true
  · -- the server shuts down
    have hcode : o.code? = some (-32600) := Outcome.code?_of_error
      (s.handle_of_document_error refusal (.after n) q (Server.document_of_shutdown hs q.uri))
    simp [hcode, hs]
  rw [Bool.not_eq_true] at hs
  rcases hd : s.documents.get? q.uri with _ | d
  · -- the document is not open
    have hcode : o.code? = some (-32602) := Outcome.code?_of_error
      (s.handle_of_document_error refusal (.after n) q (Server.document_of_get?_eq_none hs hd))
    simp [hcode, hs]
  have hdocument := Server.document_of_get? hs hd
  by_cases hq : q.Inverted d.content
  · -- the range is inverted
    have hcode : o.code? = some (-32602) := Outcome.code?_of_error
      (s.handle_of_inverted refusal (.after n) q hdocument hq)
    simp [hcode, hs, hq]
  rcases Script.exists_tokens_after d.content with ⟨toks, hnever, hafter⟩
  by_cases hn : n < needed d.content
  · -- the search is called off
    rcases (hafter n).1 hn with ⟨e, he⟩
    rcases s.handle_of_called_off refusal (.after n) q hdocument hq he with ⟨context, hresult⟩
    have hcode : o.code? = some (-32800) := Outcome.code?_of_error hresult
    simp [hcode, hs, hq, hn]
  · rcases (hafter n).2 (Nat.le_of_not_lt hn) with ⟨c, hc⟩
    have hresult := s.handle_of_tokens refusal (.after n) q hdocument hq hc
    have hcode : o.code? = none := Outcome.code?_of_ok hresult
    have hdata : ∃ data, o.result = .ok (.tokens data) ∧
        (s.handle refusal .never q.message).result = .ok (.tokens data) :=
      ⟨_, hresult, s.handle_of_tokens refusal .never q hdocument hq hnever⟩
    simp [hcode, hs, hq, hn, Nat.le_of_not_lt hn, hdata]

-- with one declaration and one call in the document, four checks are enough and three are not
example :
    let s := { Server.fresh .default "1" with
      documents := Store.empty.insert ⟨[120], [], 1, Script.keyword ++ [32, 102, 10, 102, 40]⟩ }
    (s.handle none (.after 3) (.tokens [120])).code? = some (-32800) ∧
    (s.handle none (.after 4) (.tokens [120])).code? = none := by
  decide +kernel

end CallLight
