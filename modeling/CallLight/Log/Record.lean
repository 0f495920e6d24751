import CallLight.Json.Basic
import CallLight.Log.Level

/-!
# Log records

A record has a level, fields and a message. Whether it is written depends on its level and on that
of the logger; written it is one line of JSON.
-/

namespace CallLight.Log

/-- A log record. -/
structure Record where
  level : Level
  fields : List (String × JsonValue)
  message : String

/-- Whether a logger of a level writes records of another one. Levels below `trace` and the level
that switches logging off are never written. -/
def Level.admits (logger record : Level) : Bool :=
  record.code != 7 && Level.trace.code ≤ record.code && logger.code ≤ record.code

namespace Record

/-- When and where a record was written. -/
structure Origin where
  /-- The full time. -/
  time : String
  /-- The time of day. -/
  clock : String
  /-- The place in the program. -/
  caller : String

/-- The members of the line of a record. A record without a level or without a message does not
mention it. -/
def members (r : Record) (origin : Option Origin) : List (String × JsonValue) :=
  (if r.level.name == "" then [] else [("level", .string r.level.name)]) ++ r.fields ++
    (match origin with
      | none => []
      | some o => [("time", .string o.time), ("caller", .string o.caller)]) ++
    (if r.message == "" then [] else [("message", .string r.message)])

/-- The line of a record. -/
def line (r : Record) (origin : Option Origin) : String :=
  (JsonValue.object (r.members origin)).render .log ++ "\n"

end Record

end CallLight.Log
