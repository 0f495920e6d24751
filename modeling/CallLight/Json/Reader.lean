import CallLight.Json.Parse
import CallLight.Text.Fold
import CallLight.Text.Integer

/-!
# Reading values into data

A reader takes what is there already and a JSON value, and gives what is there afterwards, or
nothing if the value does not fit. `null` leaves things as they are. The members of an object are
read one after the other, so that a later one wins; members that nobody asks for are passed over,
and the case of their names does not matter.
-/

namespace CallLight.JsonValue

/-- Reads a value into what is there. -/
abbrev Reader (α : Type) := α → JsonValue → Option α

def readText : Reader Text
  | t, .null => some t
  | _, .string s => some (Text.ofString s)
  | _, _ => none

def readString : Reader String
  | t, .null => some t
  | _, .string s => some s
  | _, _ => none

def readBool : Reader Bool
  | b, .null => some b
  | _, .bool b => some b
  | _, _ => none

/-- A whole number of 32 bits with a sign, written without a fraction or an exponent. -/
def readInt32 : Reader Int
  | n, .null => some n
  | _, .number text => (Text.integer? text).filter fun n => -0x80000000 ≤ n && n < 0x80000000
  | _, _ => none

/-- A whole number of 32 bits without a sign. -/
def readUInt32 : Reader UInt32
  | n, .null => some n
  | _, .number text => ((Text.digits? text.toList).filter (· < UInt32.size)).map Nat.toUInt32
  | _, _ => none

/-- Something that need not be there; `null` takes it away. -/
def readOptional {α : Type} (fresh : α) (read : Reader α) : Reader (Option α)
  | _, .null => some none
  | old, v => (read (old.getD fresh) v).map some

/-- Items that are read into the old ones, as far as there are any. -/
def readItems {α : Type} (fresh : α) (read : Reader α) : List α → List JsonValue → Option (List α)
  | _, [] => some []
  | [], v :: vs => do
    let a ← read fresh v
    let others ← readItems fresh read [] vs
    return a :: others
  | old :: olds, v :: vs => do
    let a ← read old v
    let others ← readItems fresh read olds vs
    return a :: others

/-- An array; `null` is the empty one. -/
def readList {α : Type} (fresh : α) (read : Reader α) : Reader (List α)
  | _, .null => some []
  | olds, .array vs => readItems fresh read olds vs
  | _, _ => none

/-- A member of an object. -/
structure MemberReader (α : Type) where
  name : String
  read : Reader α

/-- A member that has to fit and is not kept. -/
def MemberReader.unused {α β : Type} (name : String) (fresh : β) (read : Reader β) :
    MemberReader α :=
  ⟨name, fun a v => (read fresh v).map fun _ => a⟩

/-- Reads the members of an object. -/
def readMembers {α : Type} (fields : List (MemberReader α)) :
    α → List (String × JsonValue) → Option α
  | a, [] => some a
  | a, (name, v) :: rest =>
    match fields.find? (sameName ·.name name) with
    | none => readMembers fields a rest
    | some field =>
      match field.read a v with
      | none => none
      | some a => readMembers fields a rest

/-- An object. -/
def readObject {α : Type} (fields : List (MemberReader α)) : Reader α
  | a, .null => some a
  | a, .object members => readMembers fields a members
  | _, _ => none

end CallLight.JsonValue
