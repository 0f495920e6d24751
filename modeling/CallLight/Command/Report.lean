import CallLight.Json.Basic
import CallLight.Script.Tokens
import CallLight.Token.Data

/-!
# Reports on tokens

The tokens of files as a table for people, or as JSON.
-/

namespace CallLight.Command

/-- A token with its place as editors count it. -/
structure TokenRecord where
  name : Text
  offset : Int
  line : Int
  character : Int
  /-- In UTF-16 units. -/
  length : Nat
  type : String
  modifiers : String
deriving DecidableEq, Repr

/-- The tokens of a file, and the data that an editor is sent for them. -/
structure FileReport where
  path : Text
  tokens : List TokenRecord
  data : List UInt32
deriving DecidableEq, Repr

def TokenRecord.ofToken (ix : LineIndex) (t : Token) : TokenRecord :=
  let place := (ix.rangeOf t.span).1
  ⟨t.span.text, t.span.offset, place.line, place.character, t.span.text.units, t.type.name,
    t.modifiers.name⟩

/-- The report on a file with that content and those tokens. -/
def FileReport.ofTokens (path content : Text) (tokens : List Token) : FileReport :=
  ⟨path, tokens.map (.ofToken (.ofText content)), encode tokens content⟩

/-! ## JSON -/

def TokenRecord.json (r : TokenRecord) : JsonValue :=
  .object [("name", .string (Text.toStringLossy r.name)), ("offset", .int r.offset),
    ("line", .int r.line),
    ("character", .int r.character), ("length", .int r.length), ("type", .string r.type),
    ("modifiers", .string r.modifiers)]

def FileReport.json (r : FileReport) : JsonValue :=
  .object [("path", .string (Text.toStringLossy r.path)),
    ("tokens", .array (r.tokens.map (·.json))),
    ("data", .array (r.data.map fun n => .int n.toNat))]

/-- Reports as one JSON array on lines of its own. -/
def jsonOutput (reports : List FileReport) : Text :=
  Text.ofString ((JsonValue.array (reports.map (·.json))).renderIndented .safe "" ++ "\n")

/-! ## Tables -/

/-- Text in a style of the terminal, if colors are wanted. -/
def emphasize (color : Bool) (style : String) (t : Text) : Text :=
  if color then Text.ofString ("\x1b[" ++ style ++ "m") ++ t ++ Text.ofString "\x1b[0m" else t

/-- The row of a token. Lines and columns count from one. -/
def TokenRecord.row (color : Bool) (r : TokenRecord) : Text :=
  emphasize color "36"
        (Text.ofString ("  " ++ toString (r.line + 1) ++ ":" ++ toString (r.character + 1))) ++
    Text.ofString ("\t" ++ toString r.length ++ "\t" ++ r.type ++ "\t" ++ r.modifiers ++ "\t") ++
    emphasize color "33" r.name ++ [0x0A]

/-- The block of a file: its path, and a row for each token. -/
def FileReport.block (color : Bool) (r : FileReport) : Text :=
  emphasize color "1" (r.path ++ [0x0A]) ++
    if r.tokens.isEmpty then Text.ofString "  (no tokens)\n" else r.tokens.flatMap (·.row color)

/-- Reports as a table. -/
def tableOutput (color : Bool) (reports : List FileReport) : Text := reports.flatMap (·.block color)

end CallLight.Command
