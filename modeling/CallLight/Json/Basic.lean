import CallLight.Text.Quoted

/-!
# JSON values

The values of JSON and their text. A number is kept as it is written, and an object keeps its
members in order, so that nothing is lost that a reader may care about.
-/

namespace CallLight

/-- A JSON value. -/
inductive JsonValue where
  | null
  | bool (b : Bool)
  | number (text : String)
  | string (text : String)
  | array (items : List JsonValue)
  | object (members : List (String × JsonValue))
deriving Repr

namespace JsonValue

/-- A whole number. -/
def int (n : Int) : JsonValue := .number (toString n)

/-- The object of the members that are there. -/
def objectOf (members : List (Option (String × JsonValue))) : JsonValue :=
  .object (members.filterMap id)

/-- Which characters of a string are written as escapes beside quotes, backslashes and control
characters. -/
structure Escaping where
  /-- The characters that mean something in HTML, and the separators that end a line in scripts. -/
  html : Bool
  /-- The delete character. -/
  delete : Bool

/-- A four-digit escape. -/
def codeEscape (n : Nat) : List Char := '\\' :: 'u' :: (Text.hexDigits 4 n).toList

/-- A character of a string. -/
def escapeChar (e : Escaping) (c : Char) : List Char :=
  match c with
  | '"' => ['\\', '"']
  | '\\' => ['\\', '\\']
  | '\n' => ['\\', 'n']
  | '\r' => ['\\', 'r']
  | '\t' => ['\\', 't']
  | '\x08' => ['\\', 'b']
  | '\x0c' => ['\\', 'f']
  | c =>
    if c.toNat < 0x20 || (e.delete && c.toNat == 0x7F) ||
      (e.html && (c == '<' || c == '>' || c == '&' || c == '\u2028' || c == '\u2029')) then
      codeEscape c.toNat
    else [c]

/-- A string in quotes. -/
def quoteString (e : Escaping) (s : String) : String :=
  String.ofList ('"' :: s.toList.flatMap (escapeChar e) ++ ['"'])

/-- Texts with a separator between them. -/
def joinWith (sep : String) : List String → String
  | [] => ""
  | [s] => s
  | s :: rest => s ++ sep ++ joinWith sep rest

mutual

/-- The text of a value, without any blanks. -/
def render (e : Escaping) : JsonValue → String
  | .null => "null"
  | .bool b => if b then "true" else "false"
  | .number text => text
  | .string s => quoteString e s
  | .array items => "[" ++ joinWith "," (renderItems e items) ++ "]"
  | .object members => "\x7b" ++ joinWith "," (renderMembers e members) ++ "\x7d"

def renderItems (e : Escaping) : List JsonValue → List String
  | [] => []
  | v :: vs => render e v :: renderItems e vs

def renderMembers (e : Escaping) : List (String × JsonValue) → List String
  | [] => []
  | (k, v) :: rest => (quoteString e k ++ ":" ++ render e v) :: renderMembers e rest

end

mutual

/-- The text of a value on lines of its own, indented by two blanks a level. Empty collections stay
on one line. -/
def renderIndented (e : Escaping) (indent : String) : JsonValue → String
  | .array [] => "[]"
  | .object [] => "\x7b\x7d"
  | .array items =>
    "[\n" ++ joinWith ",\n" (indentItems e (indent ++ "  ") items) ++ "\n" ++ indent ++ "]"
  | .object members =>
    "\x7b\n" ++ joinWith ",\n" (indentMembers e (indent ++ "  ") members) ++ "\n" ++ indent ++
      "\x7d"
  | .null => "null"
  | .bool b => if b then "true" else "false"
  | .number text => text
  | .string s => quoteString e s

def indentItems (e : Escaping) (indent : String) : List JsonValue → List String
  | [] => []
  | v :: vs => (indent ++ renderIndented e indent v) :: indentItems e indent vs

def indentMembers (e : Escaping) (indent : String) : List (String × JsonValue) → List String
  | [] => []
  | (k, v) :: rest =>
    (indent ++ quoteString e k ++ ": " ++ renderIndented e indent v) :: indentMembers e indent rest

end

/-- The escaping of messages and of printed results. -/
def Escaping.safe : Escaping := ⟨true, false⟩

/-- The escaping of log lines. -/
def Escaping.log : Escaping := ⟨false, true⟩

end JsonValue

end CallLight
