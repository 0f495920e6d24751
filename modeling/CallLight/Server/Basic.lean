import CallLight.Config.Basic
import CallLight.Log.Record
import CallLight.Rpc.Failure
import CallLight.Script.Tokens
import CallLight.Server.Message
import CallLight.Token.Data

/-!
# The language server

The state of a session, and what comes of each message of the editor: a new state, an answer or a
failure, and records for the log. After `shutdown` documents are only closed any more, and requests
for tokens are refused.
-/

namespace CallLight

/-- The state of a session. -/
structure Server where
  config : Config
  version : String
  documents : Store
  /-- The editor is ready to be asked. -/
  ready : Bool
  /-- The editor has asked the server to shut down. -/
  shutdown : Bool
  /-- The editor has told the server to exit. -/
  exited : Bool
  capabilities : ClientCapabilities

/-- What the server answers. -/
inductive Reply where
  | nothing
  /-- What the server can do. With `provider` it offers tokens right away. -/
  | capabilities (version : String) (provider : Bool)
  /-- The data of tokens. -/
  | tokens (data : List UInt32)
deriving DecidableEq, Repr

/-- What comes of a message. -/
structure Outcome where
  server : Server
  records : List Log.Record
  result : Except Rpc.Failure Reply

namespace Server

/-- A server at the beginning of a session. -/
def fresh (config : Config) (version : String) : Server :=
  ⟨config, version, .empty, false, false, false, ⟨none⟩⟩

/-! ## Records -/

def textField (name : String) (t : Text) : String × JsonValue :=
  (name, .string (Text.toStringLossy t))

def intField (name : String) (n : Int) : String × JsonValue := (name, .int n)

def debugRecord (message : String) (fields : List (String × JsonValue)) : Log.Record :=
  ⟨.debug, fields, message⟩

def infoRecord (message : String) (fields : List (String × JsonValue)) : Log.Record :=
  ⟨.info, fields, message⟩

def positionJson (p : Position) : JsonValue :=
  .object [("line", .int p.line.toNat), ("character", .int p.character.toNat)]

def rangeJson (r : Range) : JsonValue :=
  .object [("start", positionJson r.start), ("end", positionJson r.stop)]

/-! ## Failures -/

/-- Requests are refused once the server shuts down. -/
def shuttingDown : Rpc.Failure := .ofCause (.refused (.invalidRequest "server is shutting down"))

/-- A request names a document that is not open. -/
def notOpen (u : Uri) : Rpc.Failure :=
  .ofCause (.refused (.invalidParams (Store.notFoundMessage u)))

/-- A request names a range that ends before it starts. -/
def invertedRange : Rpc.Failure :=
  .ofCause (.refused (.invalidParams "invalid range: end is before start"))

/-- A search for tokens was called off. -/
def calledOff (e : Script.Canceled) : Rpc.Failure :=
  ⟨.canceled, [e.activity, Script.Canceled.purpose]⟩

/-- A document cannot be updated. -/
def notUpdated : Store.UpdateError (Nat × InvertedRange) → Rpc.Failure
  | .notFound u => ⟨.other (Store.notFoundMessage u), ["updating document"]⟩
  | .failed (i, e) => ⟨.other e.message, ["applying change " ++ toString i, "updating document"]⟩

/-! ## Messages -/

/-- The session begins. -/
def start (s : Server) (client : Option ClientInfo) (capabilities : ClientCapabilities) : Outcome :=
  if s.shutdown then ⟨s, [], .error shuttingDown⟩
  else
    let fields := match client with
      | none => []
      | some c => [("client", .string c.name), ("client_version", .string c.version)]
    ⟨{ s with capabilities }, [infoRecord "initializing server" fields],
      .ok (.capabilities s.version (!capabilities.registers))⟩

/-- The editor is ready. If it takes tokens by registration, `refusal` is its answer to that:
nothing, or why it refuses. -/
def becomeReady (s : Server) (refusal : Option Rpc.Error) : Outcome :=
  let s := { s with ready := true }
  if !s.capabilities.registers then
    ⟨s, [debugRecord ("client does not support dynamic registration of semantic tokens, " ++
      "using static registration") []], .ok .nothing⟩
  else
    match refusal with
    | none => ⟨s, [debugRecord "registered semantic tokens provider" []], .ok .nothing⟩
    | some e =>
      ⟨s, [⟨.error, [("error", .string e.text)], "failed to register semantic tokens provider"⟩],
        .error ⟨.refused e, ["registering semantic tokens provider"]⟩⟩

def shutDown (s : Server) : Outcome :=
  ⟨{ s with shutdown := true }, [infoRecord "shutting down" []], .ok .nothing⟩

def exit (s : Server) : Outcome :=
  ⟨{ s with exited := true }, [infoRecord "exit received" [("after_shutdown", .bool s.shutdown)]],
    .ok .nothing⟩

/-- Whether a document is one that the settings speak of. -/
def isExpected (s : Server) (d : Document) : Bool :=
  d.language == Text.ofString s.config.languageId || s.config.isMatch d.uri.path

def didOpen (s : Server) (d : Document) : Outcome :=
  let opened := debugRecord "document opened" [textField "uri" d.uri, intField "version" d.version]
  if s.shutdown then ⟨s, [opened], .ok .nothing⟩
  else
    let unexpected := debugRecord "document matches neither the language id nor the file patterns"
      [textField "language_id" d.language, textField "path" d.uri.path]
    ⟨{ s with documents := s.documents.insert d },
      if s.isExpected d then [opened] else [opened, unexpected], .ok .nothing⟩

/-- A document with the changes made and another version. -/
def revise (version : Int) (changes : List Change) (d : Document) :
    Except (Nat × InvertedRange) Document :=
  match applyAll 0 changes d.content with
  | .ok content => .ok { d with content, version }
  | .error e => .error e

def didChange (s : Server) (u : Uri) (version : Int) (changes : List Change) : Outcome :=
  let changed :=
    debugRecord "document changed" [textField "uri" u, intField "changes" changes.length]
  if s.shutdown then ⟨s, [changed], .ok .nothing⟩
  else
    match s.documents.update u (revise version changes) with
    | .ok documents => ⟨{ s with documents }, [changed], .ok .nothing⟩
    | .error e => ⟨s, [changed], .error (notUpdated e)⟩

def didClose (s : Server) (u : Uri) : Outcome :=
  ⟨{ s with documents := s.documents.erase u }, [debugRecord "document closed" [textField "uri" u]],
    .ok .nothing⟩

/-- A document was saved. Its text may come with it. -/
def didSave (s : Server) (u : Uri) (text : Option Text) : Outcome :=
  let saved := debugRecord "document saved" [textField "uri" u]
  match text with
  | none => ⟨s, [saved], .ok .nothing⟩
  | some content =>
    if s.shutdown then ⟨s, [saved], .ok .nothing⟩
    else
      match s.documents.update u fun d => .ok { d with content } with
      | .ok documents => ⟨{ s with documents }, [saved], .ok .nothing⟩
      | .error e => ⟨s, [saved], .error (notUpdated e)⟩

/-- The document that a request is about. -/
def document (s : Server) (u : Uri) : Except Rpc.Failure Document :=
  if s.shutdown then .error shuttingDown
  else
    match s.documents.get? u with
    | none => .error (notOpen u)
    | some d => .ok d

/-- The tokens of a document. -/
def tokens (s : Server) (u : Uri) (c : Cancellation) : Outcome :=
  let received := debugRecord "semantic tokens request received" [textField "uri" u]
  match s.document u with
  | .error e => ⟨s, [received], .error e⟩
  | .ok d =>
    match Script.tokens d.content c with
    | .error e =>
      ⟨s, [received], .error ((calledOff e).within ("full document " ++ Text.toStringLossy d.uri))⟩
    | .ok (ts, _) =>
      ⟨s, [received, debugRecord "generated semantic tokens"
        [intField "token_count" ts.length, intField "version" d.version]],
        .ok (.tokens (encode ts d.content))⟩

/-- The tokens of a part of a document. -/
def tokensIn (s : Server) (u : Uri) (r : Range) (c : Cancellation) : Outcome :=
  let received :=
    debugRecord "semantic tokens range request received"
      [textField "uri" u, ("range", rangeJson r)]
  match s.document u with
  | .error e => ⟨s, [received], .error e⟩
  | .ok d =>
    let (start, stop) := r.offsets d.content
    if stop < start then ⟨s, [received], .error invertedRange⟩
    else
      let span : Span := ⟨start, (d.content.drop start).take (stop - start)⟩
      match Script.tokensIn d.content span c with
      | .error e =>
        ⟨s, [received],
          .error ((calledOff e).within ("range of document " ++ Text.toStringLossy d.uri))⟩
      | .ok (ts, _) => ⟨s, [received], .ok (.tokens (encode ts d.content))⟩

/-- A request is to be called off. Requests are answered one after the other, so it is over
already. -/
def cancel (s : Server) (id : Option Text) : Outcome :=
  let records := match id with
    | none => []
    | some id => [debugRecord "cancelling request" [textField "cancel_id" id]]
  ⟨s, records, .ok .nothing⟩

/-- What comes of a message. -/
def handle (s : Server) (refusal : Option Rpc.Error) (c : Cancellation) : Message → Outcome
  | .start client capabilities => s.start client capabilities
  | .ready => s.becomeReady refusal
  | .shutdown => s.shutDown
  | .exit => s.exit
  | .setTrace | .changeConfiguration => ⟨s, [], .ok .nothing⟩
  | .cancel id => s.cancel id
  | .didOpen d => s.didOpen d
  | .didChange u version changes => s.didChange u version changes
  | .didClose u => s.didClose u
  | .didSave u text => s.didSave u text
  | .tokens u => s.tokens u c
  | .tokensIn u r => s.tokensIn u r c

/-- The state after messages, none of them called off, with an editor that takes every
registration. -/
def run (s : Server) (messages : List Message) : Server :=
  messages.foldl (fun s m => (s.handle none .never m).server) s

end Server

end CallLight
