import CallLight.Log.Record

/-!
# Log records for the editor

Records can be shown to the editor as messages. Once a message could not be delivered no more are
tried, until there is a new connection.
-/

namespace CallLight.Log

/-- The kinds of messages that editors know. -/
inductive MessageType where
  | error | warning | info | log | debug
deriving DecidableEq, Repr

def MessageType.code : MessageType → Nat
  | .error => 1
  | .warning => 2
  | .info => 3
  | .log => 4
  | .debug => 5

/-- The kind of message for a level. -/
def MessageType.ofLevel (l : Level) : MessageType :=
  if l.code = 5 || l.code = 4 || l.code = 3 then .error
  else if l.code = 2 then .warning
  else if l.code = 1 then .info
  else if l.code = 0 then .debug
  else .log

/-- A message for the editor. -/
structure Message where
  type : MessageType
  text : String
deriving DecidableEq, Repr

def Message.params (m : Message) : JsonValue :=
  .object [("type", .int m.type.code), ("message", .string m.text)]

/-- The method that shows a message. -/
def messageMethod : String := "window/logMessage"

/-- Whether records of a level with a text are shown at all: not if they have no text, and not below
`debug`, where the traffic itself is logged. -/
def isForwarded (l : Level) (text : String) : Bool :=
  text != "" && 0 ≤ l.code && l.code != 6 && l.code != 7

/-- The state of the forwarding of records. -/
structure Forwarder where
  connected : Bool
  /-- A message could not be delivered. -/
  broken : Bool
deriving DecidableEq, Repr

namespace Forwarder

def idle : Forwarder := ⟨false, false⟩

/-- Starts anew with a connection, or without one. -/
def setClient (connected : Bool) : Forwarder := ⟨connected, false⟩

/-- Forwards a record. The result is the message that was tried, if any; `delivered` says whether a
message can be delivered now. -/
def forward (f : Forwarder) (delivered : Bool) (l : Level) (text : String) :
    Forwarder × Option Message :=
  if !isForwarded l text || f.broken || !f.connected then (f, none)
  else ({ f with broken := !delivered }, some ⟨.ofLevel l, text⟩)

end Forwarder

end CallLight.Log
