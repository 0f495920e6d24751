import CallLight.Text.Fold
import CallLight.Text.Integer

/-!
# Log levels

A level is a small signed number. Those in use have names; any other is named by its digits.
-/

namespace CallLight.Log

/-- A log level, from -128 to 127. -/
structure Level where
  code : Int
deriving DecidableEq, Repr

namespace Level

def trace : Level := ⟨-1⟩
def debug : Level := ⟨0⟩
def info : Level := ⟨1⟩
def warn : Level := ⟨2⟩
def error : Level := ⟨3⟩
def fatal : Level := ⟨4⟩
def panic : Level := ⟨5⟩

/-- The level of events that have none. -/
def none : Level := ⟨6⟩

/-- The level that switches logging off. -/
def disabled : Level := ⟨7⟩

/-- The named levels. -/
def names : List (String × Level) :=
  [("trace", trace), ("debug", debug), ("info", info), ("warn", warn), ("error", error),
    ("fatal", fatal), ("panic", panic), ("disabled", disabled), ("", none)]

/-- The name of a level. -/
def name (l : Level) : String :=
  match names.find? (·.2 == l) with
  | some (name, _) => name
  | Option.none => toString l.code

/-- Why a name is refused. -/
inductive ParseError where
  | unknown (name : String)
  | outOfBounds (code : Int)
deriving DecidableEq, Repr

def ParseError.message : ParseError → String
  | .unknown name => "Unknown Level String: '" ++ name ++ "', defaulting to NoLevel"
  | .outOfBounds code => "Out-Of-Bounds Level: '" ++ toString code ++ "', defaulting to NoLevel"

/-- Reads a level by name, case aside, or by number. -/
def parse (s : String) : Except ParseError Level :=
  match names.find? (sameName ·.1 s) with
  | some (_, l) => .ok l
  | Option.none =>
    match Text.integer? s with
    | Option.none => .error (.unknown s)
    | some code => if 127 < code || code < -128 then .error (.outOfBounds code) else .ok ⟨code⟩

end Level

end CallLight.Log
