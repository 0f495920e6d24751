import CallLight.Json.Parse
import CallLight.Rpc.Failure
import CallLight.Text.Integer

/-!
# Requests and responses

The body of a frame is one message or a batch of them. A message with an id is a request and gets a
response; one without is a notification. Ids are kept as they are written.
-/

namespace CallLight.Rpc

/-- A message of the client. -/
structure Request where
  /-- The id as it is written; nothing for a notification. -/
  id : Option Text
  /-- The method; nothing for an answer to a call of the server. -/
  method : Option String
  /-- The parameters as they are written. -/
  params : Option Text
  /-- The error of an answer. -/
  error : Option Error
deriving DecidableEq, Repr

/-- The messages of a body. -/
structure Body where
  batch : Bool
  requests : List Request
deriving DecidableEq, Repr

/-- The last member of a name. -/
def member? (members : List (String × Text)) (name : String) : Option Text :=
  (members.reverse.find? (·.1 == name)).map (·.2)

/-- A value that is there and is not `null`. -/
def present? (raw : Option Text) : Option Text := raw.filter (· != Text.ofString "null")

/-- The error of an answer. -/
def errorOf (raw : Text) : Error :=
  match JsonValue.parse raw with
  | some (.object members) =>
    let code := match members.lookup "code" with
      | some (.number n) => (Text.integer? n).getD Error.internalCode
      | _ => Error.internalCode
    let message := match members.lookup "message" with
      | some (.string s) => s
      | _ => ""
    ⟨code, message⟩
  | _ => ⟨Error.internalCode, ""⟩

/-- The message of an object. -/
def Request.ofMembers (members : List (String × Text)) : Request where
  id := present? (member? members "id")
  method := match (member? members "method").bind JsonValue.parse with
    | some (.string m) => some m
    | _ => none
  params := present? (member? members "params")
  error := (member? members "error").map errorOf

/-- The messages of a body, or nothing if it is no JSON. -/
def Body.parse? (body : Text) : Option Body :=
  match JsonValue.parse body with
  | none => none
  | some _ =>
    if body.head? == some 0x5B then
      (JsonValue.rawItems? body).map fun items =>
        ⟨true, items.map fun raw => .ofMembers ((JsonValue.rawMembers? raw).getD [])⟩
    else some ⟨false, [.ofMembers ((JsonValue.rawMembers? body).getD [])]⟩

/-- What a response says. -/
inductive Answer where
  | result (value : JsonValue)
  | error (error : Error) (data : Option String)

/-- A response to a request. -/
structure Response where
  /-- The id as it is written. -/
  id : Text
  answer : Answer

def nullId : Text := Text.ofString "null"

/-- A body that is no JSON. -/
def Response.unreadable : Response :=
  ⟨nullId, .error ⟨Error.parseCode, "invalid request value"⟩ none⟩

/-- A batch without messages. -/
def Response.emptyBatch : Response :=
  ⟨nullId, .error ⟨Error.invalidRequestCode, "empty request batch"⟩ none⟩

/-- A method that is not known. -/
def Answer.unknownMethod (method : String) : Answer :=
  .error ⟨Error.unknownMethodCode, "method not found"⟩ (some method)

/-- Parameters that do not fit the method. -/
def Answer.invalidParams : Answer :=
  .error ⟨Error.invalidParamsCode, (Error.invalidParams "invalid parameters").text⟩ none

/-! ## Texts -/

def Error.json (e : Error) (data : Option String) : JsonValue :=
  .objectOf [some ("code", .int e.code), some ("message", .string e.message),
    data.map fun d => ("data", .string d)]

/-- The text of a response. -/
def Response.render (r : Response) : Text :=
  let answer := match r.answer with
    | .result v => "\"result\":" ++ v.render .safe
    | .error e data => "\"error\":" ++ (e.json data).render .safe
  Text.ofString "\x7b\"jsonrpc\":\"2.0\",\"id\":" ++ r.id ++ Text.ofString ("," ++ answer ++ "\x7d")

/-- The body of responses: one by itself, or all of a batch. -/
def renderResponses (batch : Bool) (rs : List Response) : Text :=
  match batch, rs with
  | false, [r] => r.render
  | _, rs =>
    Text.ofString "[" ++ List.intercalate (Text.ofString ",") (rs.map (·.render)) ++
      Text.ofString "]"

/-- The text of a notification, or with an id of a call. -/
def renderCall (id : Option Nat) (method : String) (params : JsonValue) : Text :=
  Text.ofString ((JsonValue.objectOf
    [some ("jsonrpc", .string "2.0"), id.map fun n => ("id", .int n),
    some ("method", .string method), some ("params", params)]).render .safe)

end CallLight.Rpc
