import CallLight.Log.Forward
import CallLight.Rpc.Frame
import CallLight.Rpc.Request
import CallLight.Server.Reply

/-!
# A connection to an editor

What comes in is cut into frames, the messages in them are handled one after the other, and what
comes of that is a list of events: log records, and what is sent to the editor. The connection ends
when the editor says so, when the input ends, or when the input is no sequence of frames.
-/

namespace CallLight

/-- How a connection ended. -/
inductive Ending where
  | clean
  /-- The editor told the server to exit without asking it to shut down. -/
  | earlyExit
  | failed (cause : String)
deriving DecidableEq, Repr

/-- What is wrong with an ending. -/
def Ending.error? : Ending → Option String
  | .clean => none
  | .earlyExit => some "exit received before shutdown"
  | .failed cause => some ("serving language server: " ++ cause)

/-- What happens on a connection. -/
inductive Event where
  | logged (record : Log.Record)
  /-- A record is shown to the editor. -/
  | told (message : Log.Message)
  /-- The editor is asked to register the provider of tokens. -/
  | called (config : Config)
  | replied (batch : Bool) (responses : List Rpc.Response)

/-- The state of a connection. -/
structure Connection where
  server : Server
  /-- The id of the server in the log. -/
  id : String
  level : Log.Level
  forwarder : Log.Forwarder
  /-- What has come in and is no whole frame yet. -/
  input : Text
  ending : Option Ending

namespace Connection

/-! ## Records -/

/-- Writes records to the log, as far as its level admits them, and shows them to the editor. -/
def log (c : Connection) : List Log.Record → Connection × List Event
  | [] => (c, [])
  | r :: rs =>
    if !c.level.admits r.level then c.log rs
    else
      let (forwarder, told) := c.forwarder.forward true r.level r.message
      let (c', events) := log { c with forwarder } rs
      let r := { r with fields := ("server_id", .string c.id) :: r.fields }
      (c', told.toList.map .told ++ .logged r :: events)

/-- The fields by which the records of a request are known. -/
def requestFields (q : Rpc.Request) : List (String × JsonValue) :=
  [("rpc_method", .string (q.method.getD "")),
    ("rpc_id", .string (Text.toStringLossy (q.id.getD [])))]

/-- The record of a request that came in. -/
def requestRecord (q : Rpc.Request) : Log.Record :=
  ⟨.trace, requestFields q ++ [("notification", .bool q.id.isNone)], "rpc request"⟩

/-- The record of a response that goes out. -/
def responseRecord (r : Rpc.Response) : Log.Record :=
  let failure := match r.answer with
    | .result _ => []
    | .error e _ => [("rpc_error_code", .int e.code), ("rpc_error", .string e.message)]
  ⟨.trace, ("rpc_id", .string (Text.toStringLossy r.id)) :: failure, "rpc response"⟩

/-- The record of a failure. Those of requests are of less interest than those of notifications,
which the editor is not told. -/
def failureRecords (m : Message) (f : Rpc.Failure) : List Log.Record :=
  let error := [("error", .string f.text)]
  match m with
  | .start _ _ | .tokens _ | .tokensIn _ _ => [⟨.debug, error, "request failed"⟩]
  | .shutdown | .exit | .cancel _ => []
  | _ => [⟨.warn, error, "handler failed"⟩]

/-- The records of a message. All but those of a cancellation name the request. -/
def messageRecords (q : Rpc.Request) (m : Message) (o : Outcome) : List Log.Record :=
  let failed := match o.result with
    | .ok _ => []
    | .error f => failureRecords m f
  match m with
  | .cancel _ => o.records
  | _ => (o.records ++ failed).map fun r => { r with fields := requestFields q ++ r.fields }

/-! ## Messages -/

/-- Whether handling a message asks the editor for something. -/
def calls (s : Server) (m : Message) : Bool := m == .ready && s.capabilities.registers

/-- Handles a message of the editor. `refusal` is the answer of the editor to a registration, and
`resultId` the id of data. The response is nothing for a notification. -/
def handle (c : Connection) (refusal : Option Rpc.Error) (resultId : String) (q : Rpc.Request) :
    Connection × List Event × Option Rpc.Response :=
  match q.method with
  | none => (c, [], none)
  | some method =>
    let respond (answer : Rpc.Answer) := q.id.map fun id => (⟨id, answer⟩ : Rpc.Response)
    match Message.decode method q.params with
    | .error .unknownMethod => (c, [], respond (.unknownMethod method))
    | .error .invalidParams =>
      let (c, events) := c.log [requestRecord q]
      (c, events, respond .invalidParams)
    | .ok m =>
      let (c, received) := c.log [requestRecord q]
      let called := if calls c.server m then [.called c.server.config] else []
      let o := c.server.handle refusal .never m
      let (c, handled) := { c with server := o.server }.log (messageRecords q m o)
      let answer : Rpc.Answer := match o.result with
        | .ok reply => .result (reply.json resultId)
        | .error f => .error f.toError none
      (c, received ++ called ++ handled, respond answer)

/-- Handles messages one after the other; `ids` gives the ids of data from the `i`th message on. -/
def handleAll (c : Connection) (refusal : Option Rpc.Error) (ids : Nat → String) (i : Nat) :
    List Rpc.Request → Connection × List Event × List Rpc.Response
  | [] => (c, [], [])
  | q :: qs =>
    let (c, events, response) := c.handle refusal (ids i) q
    let (c, more, responses) := c.handleAll refusal ids (i + 1) qs
    (c, events ++ more, response.toList ++ responses)

/-! ## The end -/

/-- The end of a connection that nothing is wrong with. From here on records are not shown to the
editor. -/
def finish (c : Connection) : Connection × List Event :=
  let ending := if c.server.exited && !c.server.shutdown then .earlyExit else .clean
  { c with forwarder := .setClient false, ending := some ending }.log
    [Server.infoRecord "language server stopped" [("clean_shutdown", .bool c.server.shutdown)]]

/-- The end of a connection that cannot go on. -/
def fail (c : Connection) (cause : String) : Connection :=
  { c with forwarder := .setClient false, ending := some (.failed cause) }

/-! ## Input -/

/-- Takes a body. -/
def receive (c : Connection) (refusal : Option Rpc.Error) (ids : Nat → String) (body : Text) :
    Connection × List Event :=
  match Rpc.Body.parse? body with
  | none => (c, [.replied false [.unreadable]])
  | some ⟨_, []⟩ => (c, [.replied false [.emptyBatch]])
  | some ⟨batch, requests⟩ =>
    let (c, events, responses) := c.handleAll refusal ids 0 requests
    let (c, answered) := c.log (responses.map responseRecord)
    let replied := if responses.isEmpty then [] else [.replied batch responses]
    let (c, stopped) := if c.server.exited then c.finish else (c, [])
    (c, events ++ answered ++ replied ++ stopped)

/-- Whether taking a body asks the editor for something. -/
def willCall (c : Connection) (body : Text) : Bool :=
  match Rpc.Body.parse? body with
  | none => false
  | some b => b.requests.any fun q => match q.method with
    | none => false
    | some method => match Message.decode method q.params with
      | .ok m => calls c.server m
      | .error _ => false

/-- Takes the frames of what has come in; `fuel` bounds their number. -/
def drain (refusal : Option Rpc.Error) (ids : Nat → String) (closed : Bool) :
    (fuel : Nat) → Connection → Connection × List Event
  | 0, c => (c, [])
  | fuel + 1, c =>
    if c.ending.isSome then (c, [])
    else
      match Rpc.FrameStep.of c.input closed with
      | .waiting => (c, [])
      | .finished => c.finish
      | .broken e => (c.fail e.message, [])
      | .frame body rest =>
        let (c, events) := { c with input := rest }.receive refusal ids body
        let (c, more) := drain refusal ids closed fuel c
        (c, events ++ more)

/-- Takes input; `closed` says that no more will come. -/
def feed (c : Connection) (refusal : Option Rpc.Error) (ids : Nat → String) (closed : Bool)
    (input : Text) :
    Connection × List Event :=
  let c := { c with input := c.input ++ input }
  drain refusal ids closed (c.input.length + 2) c

/-- A new connection. If the settings want it, records are shown to the editor. -/
def establish (config : Config) (version id : String) (level : Log.Level) :
    Connection × List Event :=
  let c : Connection := ⟨.fresh config version, id, level, .setClient config.clientLog, [], none⟩
  c.log [Server.infoRecord "language server started" []]

end Connection

end CallLight
