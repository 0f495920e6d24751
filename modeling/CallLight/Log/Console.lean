import CallLight.Log.Record
import CallLight.Text.Quoted

/-!
# Log lines for people

On a terminal a record is written as time, level, place and message, followed by the other fields in
the order of their names, the error first.
-/

namespace CallLight.Log

/-- Text in a color, if colors are wanted. -/
def paint (color : Bool) (code : Nat) (s : String) : String :=
  if color then "\x1b[" ++ toString code ++ "m" ++ s ++ "\x1b[0m" else s

/-- The short name of a level, and its color if it has one. -/
def shortLevel? (l : Level) : Option (String × Option Nat) :=
  match l.code with
  | -1 => some ("TRC", some 34)
  | 0 => some ("DBG", none)
  | 1 => some ("INF", some 32)
  | 2 => some ("WRN", some 33)
  | 3 => some ("ERR", some 31)
  | 4 => some ("FTL", some 31)
  | 5 => some ("PNC", some 31)
  | _ => none

/-- The first three letters of a name, in capitals. -/
def initials (name : String) : String :=
  if name == "" then "???" else String.ofList ((name.toList.take 3).map Char.toUpper)

/-- The level by its name. -/
def levelPart (color : Bool) : Option JsonValue → String
  | none => "???"
  | some (.string name) =>
    let level := match Level.parse name with
      | .ok l => l
      | .error _ => .none
    match shortLevel? level with
    | some (short, some code) => paint color code short
    | some (short, none) => short
    | none => initials name
  | some v => initials (v.render .safe)

/-- The message, in bold from `info` on. -/
def messagePart (color : Bool) (level : Option JsonValue) : Option JsonValue → String
  | some (.string m) =>
    let loud := match level with
      | some (.string name) => ["info", "warn", "error", "fatal", "panic"].contains name
      | _ => false
    if m == "" then "" else paint (color && loud) 1 m
  | _ => ""

/-- The place, with an arrow behind it. -/
def callerPart (color : Bool) : Option JsonValue → String
  | some (.string c) => if c == "" then "" else paint color 1 c ++ paint color 36 " >"
  | _ => ""

/-- Whether a value has to be quoted to be told from what is around it. -/
def needsQuotes (s : String) : Bool :=
  s.toList.any fun c => c.toNat < 0x20 || 0x7E < c.toNat || c == ' ' || c == '\\' || c == '"'

/-- The text of a field. -/
def fieldText : JsonValue → String
  | .string s => if needsQuotes s then Text.quote (Text.ofString s) else s
  | v => v.render .safe

/-- A field with its name. -/
def fieldPart (color : Bool) (name : String) (v : JsonValue) : String :=
  let value := if name == "error" then paint color 31 (paint color 1 (fieldText v)) else fieldText v
  paint color 36 (name ++ "=") ++ value

/-- Puts a name in its place; a name that is there already stays once. -/
def insertName (name : String) : List String → List String
  | [] => [name]
  | n :: rest =>
    if name == n then n :: rest
    else if Text.lt (Text.ofString name) (Text.ofString n) then name :: n :: rest
    else n :: insertName name rest

/-- The names of the fields as they are shown. With an error among them, a field without a name is
not shown. -/
def fieldNames (members : List (String × JsonValue)) : List String :=
  let names := (members.map (·.1)).filter fun n =>
    !(["level", "time", "message", "caller"].contains n)
  let sorted := names.foldl (fun out n => insertName n out) []
  if sorted.contains "error" then
    "error" :: sorted.filter fun n => n != "error" && n != ""
  else sorted

/-- The line of a record. -/
def Record.consoleLine (color : Bool) (r : Record) (origin : Origin) : String :=
  -- a name that comes twice has its last value
  let members := r.members (some { origin with time := origin.clock })
  let get (name : String) := (members.reverse.find? fun (n, _) => n == name).map (·.2)
  let time := match get "time" with
    | some (.string t) => paint color 90 t
    | _ => paint color 90 "<nil>"
  let parts := [time, levelPart color (get "level"), callerPart color (get "caller"),
    messagePart color (get "level") (get "message")].filter (· != "")
  let fields := (fieldNames members).map fun n => fieldPart color n ((get n).getD .null)
  JsonValue.joinWith " " (parts ++ fields) ++ "\n"

end CallLight.Log
