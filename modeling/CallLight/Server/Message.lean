import CallLight.Document.Change
import CallLight.Document.Store
import CallLight.Json.Reader

/-!
# Messages of the editor

What an editor asks and tells the server, read from the name of a method and its parameters.
-/

namespace CallLight

/-- What the editor can do. -/
structure ClientCapabilities where
  /-- Whether it takes semantic tokens by registration; nothing if it does not know them. -/
  semanticTokens : Option Bool
deriving DecidableEq, Repr

/-- Whether the provider of tokens has to be registered later on. -/
def ClientCapabilities.registers (c : ClientCapabilities) : Bool := c.semanticTokens == some true

/-- Who the editor is. -/
structure ClientInfo where
  name : String
  version : String
deriving DecidableEq, Repr

/-- A message of the editor. -/
inductive Message where
  /-- The session begins. -/
  | start (client : Option ClientInfo) (capabilities : ClientCapabilities)
  /-- The editor is ready to be asked. -/
  | ready
  | shutdown
  | exit
  | setTrace
  | changeConfiguration
  /-- The request with this id, as it is written, is to be called off. -/
  | cancel (id : Option Text)
  | didOpen (document : Document)
  | didChange (uri : Uri) (version : Int) (changes : List Change)
  | didClose (uri : Uri)
  | didSave (uri : Uri) (text : Option Text)
  /-- The tokens of a document are asked for. -/
  | tokens (uri : Uri)
  /-- The tokens of a part of a document are asked for. -/
  | tokensIn (uri : Uri) (range : Range)
deriving DecidableEq, Repr

namespace Message

/-- Why a message is not understood. -/
inductive Rejection where
  | unknownMethod
  | invalidParams
deriving DecidableEq, Repr

open JsonValue

/-! ## Parts of the parameters -/

def position : Reader Position :=
  readObject [⟨"line", fun p v => (readUInt32 p.line v).map fun line => { p with line }⟩,
    ⟨"character", fun p v => (readUInt32 p.character v).map fun character => { p with character }⟩]

def range : Reader Range :=
  readObject [⟨"start", fun r v => (position r.start v).map fun start => { r with start }⟩,
    ⟨"end", fun r v => (position r.stop v).map fun stop => { r with stop }⟩]

def zeroRange : Range := ⟨⟨0, 0⟩, ⟨0, 0⟩⟩

def change : Reader Change :=
  readObject [⟨"range", fun c v =>
      (readOptional zeroRange range c.range v).map fun range => { c with range }⟩,
    .unused "rangeLength" 0 readUInt32,
    ⟨"text", fun c v => (readText c.text v).map fun text => { c with text }⟩]

def document : Reader Document :=
  readObject [⟨"uri", fun d v => (readText d.uri v).map fun uri => { d with uri }⟩,
    ⟨"languageId", fun d v => (readText d.language v).map fun language => { d with language }⟩,
    ⟨"version", fun d v => (readInt32 d.version v).map fun version => { d with version }⟩,
    ⟨"text", fun d v => (readText d.content v).map fun content => { d with content }⟩]

def clientInfo : Reader ClientInfo :=
  readObject [⟨"name", fun c v => (readString c.name v).map fun name => { c with name }⟩,
    ⟨"version", fun c v => (readString c.version v).map fun version => { c with version }⟩]

def semanticTokens : Reader Bool := readObject [⟨"dynamicRegistration", readBool⟩]

def textDocumentCapabilities : Reader ClientCapabilities :=
  readObject [⟨"semanticTokens", fun c v =>
    (readOptional false semanticTokens c.semanticTokens v).map fun semanticTokens =>
      { c with semanticTokens }⟩]

def capabilities : Reader ClientCapabilities :=
  readObject [⟨"textDocument", textDocumentCapabilities⟩]

/-- The URI of a document, as a member of its own object. -/
def uriOf : Reader Uri := readObject [⟨"uri", readText⟩]

/-- A URI with a version. -/
def versioned : Reader (Uri × Int) :=
  readObject [⟨"version", fun (u, n) v => (readInt32 n v).map fun n => (u, n)⟩,
    ⟨"uri", fun (u, n) v => (readText u v).map fun u => (u, n)⟩]

/-! ## Parameters -/

/-- The parameters of a message. Without any, everything is at its zero value. -/
def params {α : Type} (fresh : α) (fields : List (MemberReader α)) (raw : Option Text) :
    Except Rejection α :=
  match raw with
  | none => .ok fresh
  | some raw =>
    match (parse raw).bind (readObject fields fresh) with
    | some a => .ok a
    | none => .error .invalidParams

def readStart (raw : Option Text) : Except Rejection Message :=
  (params ((none, ⟨none⟩) : Option ClientInfo × ClientCapabilities)
    [.unused "processId" 0 readInt32, .unused "rootUri" "" readString,
      .unused "trace" "" readString,
      ⟨"clientInfo", fun (i, c) v => (readOptional ⟨"", ""⟩ clientInfo i v).map fun i => (i, c)⟩,
      ⟨"capabilities", fun (i, c) v => (capabilities c v).map fun c => (i, c)⟩] raw).map
    fun (i, c) => .start i c

def readDidOpen (raw : Option Text) : Except Rejection Message :=
  (params (⟨[], [], 0, []⟩ : Document) [⟨"textDocument", document⟩] raw).map .didOpen

def readDidChange (raw : Option Text) : Except Rejection Message :=
  (params ((([], 0), []) : (Uri × Int) × List Change)
    [⟨"textDocument", fun (d, cs) v => (versioned d v).map fun d => (d, cs)⟩,
      ⟨"contentChanges", fun (d, cs) v =>
          (readList ⟨none, []⟩ change cs v).map fun cs => (d, cs)⟩] raw).map
    fun ((u, n), cs) => .didChange u n cs

def readDidClose (raw : Option Text) : Except Rejection Message :=
  (params ([] : Uri) [⟨"textDocument", uriOf⟩] raw).map .didClose

def readDidSave (raw : Option Text) : Except Rejection Message :=
  (params (([], none) : Uri × Option Text)
    [⟨"textDocument", fun (u, t) v => (uriOf u v).map fun u => (u, t)⟩,
      ⟨"text", fun (u, t) v => (readOptional [] readText t v).map fun t => (u, t)⟩] raw).map
    fun (u, t) => .didSave u t

def readTokens (raw : Option Text) : Except Rejection Message :=
  (params ([] : Uri) [⟨"textDocument", uriOf⟩] raw).map .tokens

def readTokensIn (raw : Option Text) : Except Rejection Message :=
  (params (([], zeroRange) : Uri × Range)
    [⟨"textDocument", fun (u, r) v => (uriOf u v).map fun u => (u, r)⟩,
      ⟨"range", fun (u, r) v => (range r v).map fun r => (u, r)⟩] raw).map
    fun (u, r) => .tokensIn u r

/-- The id of a request to be called off is taken as it is written. -/
def readCancel (raw : Option Text) : Except Rejection Message :=
  match raw with
  | none => .ok (.cancel none)
  | some raw =>
    match rawMembers? raw with
    | none => .error .invalidParams
    | some members =>
      .ok (.cancel ((members.reverse.find? fun (name, _) => sameName "id" name).map (·.2)))

/-- Parameters that only have to fit. -/
def readPlain (m : Message) (fields : List (MemberReader Unit)) (raw : Option Text) :
    Except Rejection Message :=
  (params () fields raw).map fun _ => m

/-- The message of a method with those parameters. -/
def decode (method : String) (raw : Option Text) : Except Rejection Message :=
  match method with
  | "initialize" => readStart raw
  | "initialized" => readPlain .ready [] raw
  | "shutdown" => .ok .shutdown
  | "exit" => .ok .exit
  | "$/setTrace" => readPlain .setTrace [.unused "value" "" readString] raw
  | "$/cancelRequest" => readCancel raw
  | "workspace/didChangeConfiguration" => readPlain .changeConfiguration [] raw
  | "textDocument/didOpen" => readDidOpen raw
  | "textDocument/didChange" => readDidChange raw
  | "textDocument/didClose" => readDidClose raw
  | "textDocument/didSave" => readDidSave raw
  | "textDocument/semanticTokens/full" => readTokens raw
  | "textDocument/semanticTokens/range" => readTokensIn raw
  | _ => .error .unknownMethod

end Message

end CallLight
