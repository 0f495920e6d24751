import CallLight.Server.Basic

/-!
# Answers and calls of the server

The JSON of what the server answers, and of the registration that it asks the editor for.
-/

namespace CallLight

def strings (names : List String) : JsonValue := .array (names.map .string)

/-- What the server offers: the legend, and tokens of whole documents and of parts of them. -/
def providerMembers : List (String × JsonValue) :=
  [("legend", .object
      [("tokenTypes", strings legend.types), ("tokenModifiers", strings legend.modifiers)]),
    ("range", .bool true), ("full", .bool true)]

/-- How documents are kept in step: by their changes, and with their text when they are saved. -/
def syncJson : JsonValue :=
  .object [("openClose", .bool true), ("change", .int 2),
    ("save", .object [("includeText", .bool true)])]

/-- A member that is left out if its text is empty. -/
def nonempty (name text : String) : Option (String × JsonValue) :=
  if text == "" then none else some (name, .string text)

/-- The JSON of an answer; data of tokens is given an id. -/
def Reply.json (resultId : String) : Reply → JsonValue
  | .nothing => .null
  | .capabilities version provider =>
    .object [
      ("capabilities", .objectOf [some ("textDocumentSync", syncJson),
        if provider then some ("semanticTokensProvider", .object providerMembers) else none]),
      ("serverInfo", .objectOf [some ("name", .string "scrustls"), nonempty "version" version])]
  | .tokens data =>
    .objectOf [nonempty "resultId" resultId, some ("data", .array (data.map fun n => .int n.toNat))]

/-- The documents that tokens are offered for: by language, or as files by pattern. -/
def documentSelector (config : Config) : JsonValue :=
  .array (.objectOf [nonempty "language" config.languageId] ::
    config.filePatterns.map fun p =>
      .objectOf [some ("scheme", .string "file"), nonempty "pattern" p])

/-- The method that registers something with the editor. -/
def registrationMethod : String := "client/registerCapability"

/-- The registration of the provider of tokens. -/
def registrationParams (config : Config) : JsonValue :=
  .object [("registrations", .array [.object [
    ("id", .string "semantic-tokens"), ("method", .string "textDocument/semanticTokens"),
    ("registerOptions",
      .object (("documentSelector", documentSelector config) :: providerMembers))]])]

end CallLight
