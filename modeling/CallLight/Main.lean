import CallLight.Command.Program
import CallLight.Log.Caller
import CallLight.Log.Clock
import CallLight.Server.Connection
import Std.Time.DateTime.Timestamp

/-!
# The command line

The files, the clock and the streams of the computer. What is done with them is decided elsewhere.
-/

namespace CallLight

/-! ## Files -/

/-- What an error of the system means. -/
def faultOf : IO.Error → FileFault
  | .noFileOrDirectory _ _ _ => .missing
  | .permissionDenied _ _ _ => .denied
  | .inappropriateType _ code details =>
    if code == 20 then .notDirectory else if code == 21 then .isDirectory else .other details
  | e => .other (toString e)

/-- The entry at a path. -/
def entryAt (path : Text) : IO.FS.DirEntry := ⟨".", Text.toStringLossy path⟩

/-- The outcome of an operation, with what went wrong as a value. -/
def attempt {α : Type} (action : IO α) : IO (Except FileFault α) := do
  match ← action.toBaseIO with
  | .ok a => pure (.ok a)
  | .error e => pure (.error (faultOf e))

def kindOf : IO.FS.FileType → FileKind
  | .dir => .directory
  | .symlink => .link
  | _ => .file

/-- The file system of the computer. -/
def computerFiles : FileSystem IO where
  isDirectory? path := do
    if path.isEmpty then return none
    match ← attempt (entryAt path).path.metadata with
    | .ok data => pure (some (kindOf data.type == .directory))
    | .error _ => pure none
  inspect path := do
    if path.isEmpty then return .error .missing
    match ← attempt (entryAt path).path.symlinkMetadata with
    | .ok data => pure (.ok (kindOf data.type))
    | .error fault => pure (.error fault)
  names path := do
    match ← attempt (entryAt path).path.readDir with
    | .ok entries => pure (.ok (entries.toList.map fun e => Text.ofString e.fileName))
    | .error fault => pure (.error fault)
  read path := do
    match ← attempt (IO.FS.readBinFile (Text.toStringLossy path)) with
    | .ok bytes => pure (.ok bytes.data.toList)
    | .error fault =>
      pure (.error ⟨if fault == .isDirectory then .reading else .opening, path, fault⟩)

/-- The variables of the environment. -/
def environmentEntries : IO (List String) := do
  match ← attempt (IO.FS.readBinFile "/proc/self/environ") with
  | .error _ => pure []
  | .ok bytes =>
    let entries := bytes.data.toList.foldr (fun b (out : List Text) =>
      if b == 0 then [] :: out
      else match out with
        | [] => [[b]]
        | entry :: rest => (b :: entry) :: rest) []
    pure ((entries.filter (!·.isEmpty)).map Text.toStringLossy)

/-! ## The log -/

/-- A text of random letters out of an alphabet. -/
def randomText (alphabet : List Char) : (length : Nat) → IO String
  | 0 => pure ""
  | length + 1 => do
    let i ← IO.rand 0 (alphabet.length - 1)
    let rest ← randomText alphabet length
    pure (String.singleton (alphabet.getD i 'x') ++ rest)

def hexAlphabet : List Char := "0123456789abcdef".toList

/-- A random id for data of tokens. -/
def randomResultId : IO String := do
  let part (n : Nat) := randomText hexAlphabet n
  let variant ← randomText ['8', '9', 'a', 'b'] 1
  pure ((← part 8) ++ "-" ++ (← part 4) ++ "-4" ++ (← part 3) ++ "-" ++ variant ++
    (← part 3) ++ "-" ++
    (← part 12))

/-- When and where a record is written. -/
def originNow : IO Log.Record.Origin := do
  let now ← Std.Time.Timestamp.now
  let ms := now.toMillisecondsSinceUnixEpoch.val.toNat
  pure ⟨Log.timestamp ms, Log.timeOfDay ms, Log.caller false "server" "Connection" 0⟩

/-- Where the parts of a session go. -/
structure Streams where
  input : IO.FS.Stream
  output : IO.FS.Stream
  log : IO.FS.Stream

def Streams.send (s : Streams) (body : Text) : IO Unit := do
  s.output.write ⟨(Rpc.frame body).toArray⟩
  s.output.flush

/-- Carries out an event. Calls are sent before they are answered, so there is nothing left to do
for them. -/
def Streams.perform (s : Streams) : Event → IO Unit
  | .logged r => do
    s.log.putStr (r.line (some (← originNow)))
    s.log.flush
  | .told m => s.send (Rpc.renderCall none Log.messageMethod m.params)
  | .called _ => pure ()
  | .replied batch responses => s.send (Rpc.renderResponses batch responses)

/-! ## The session -/

/-- More input: the rest of a body if its length is known, a line otherwise. Nothing at the end. -/
def Streams.more (s : Streams) (input : Text) : IO Text := do
  match Rpc.missing? input with
  | some n => pure (← s.input.read n.toUSize).data.toList
  | none => pure (Text.ofString (← s.input.getLine))

/-- The next body, or how the input ends. Bodies that came while the editor was being waited for
come first. -/
partial def Streams.next (s : Streams) (c : Connection) (closed : Bool) :
    IO (Connection × Rpc.FrameStep) := do
  match Rpc.FrameStep.of c.input closed with
  | .waiting =>
    let more ← s.more c.input
    s.next { c with input := c.input ++ more } more.isEmpty
  | .frame body rest => pure ({ c with input := rest }, .frame body rest)
  | step => pure (c, step)

/-- Waits for the answer to a call. Other bodies that come in meanwhile are kept. -/
partial def Streams.await (s : Streams) (c : Connection) (id : Nat) (kept : List Text) :
    IO (Connection × Option Rpc.Error × List Text) := do
  match ← s.next c false with
  | (c, .frame body _) =>
    match Rpc.Body.parse? body with
    | some ⟨false, [⟨some answered, none, _, error⟩]⟩ =>
      if answered == Text.ofString (toString id) then pure (c, error, kept)
      else s.await c id (kept ++ [body])
    | _ => s.await c id (kept ++ [body])
  | (c, _) => pure (c, some ⟨Rpc.Error.internalCode, "client channel terminated"⟩, kept)

/-- Takes bodies until the connection ends; `calls` counts the calls so far. -/
partial def Streams.serve (s : Streams) (c : Connection) (calls : Nat) (kept : List Text) :
    IO Connection := do
  if c.ending.isSome then return c
  let (c, step) ← match kept with
    | body :: _ => pure (c, Rpc.FrameStep.frame body [])
    | [] => s.next c false
  match step with
  | .frame body _ =>
    let called := c.willCall body
    let (c, refusal, more) ← if called then do
        s.send (Rpc.renderCall (some (calls + 1)) registrationMethod
          (registrationParams c.server.config))
        s.await c (calls + 1) []
      else pure (c, none, [])
    let resultId ← randomResultId
    let ids (i : Nat) := if i == 0 then resultId else resultId ++ "-" ++ toString i
    let (c, events) := c.receive refusal ids body
    events.forM s.perform
    s.serve c (if called then calls + 1 else calls) (kept.drop 1 ++ more)
  | .broken e => pure (c.fail e.message)
  | _ =>
    let (c, events) := c.finish
    events.forM s.perform
    pure c

/-- Runs a language server. -/
def serve (plan : Command.ServePlan) (version : String) (s : Streams) : IO (Option String) := do
  let id ← randomText "0123456789abcdefghijklmnopqrstuv".toList 20
  let (c, events) := Connection.establish plan.config version id plan.level
  events.forM s.perform
  let c ← s.serve c 0 []
  pure ((c.ending.bind (·.error?)).map fun e => (Command.ServeError.running e).message)

/-- The stream for the log. -/
def openLog (plan : Command.ServePlan) : IO (Except Command.ServeError IO.FS.Stream) := do
  if plan.logFile.isEmpty then return .ok (← IO.getStderr)
  match ← attempt (IO.FS.Handle.mk (Text.toStringLossy plan.logFile) .append) with
  | .ok handle => pure (.ok (.ofHandle handle))
  | .error fault => pure (.error (.openingLog ⟨.opening, plan.logFile, fault⟩))

/-- Runs the program; the result is why it failed. -/
def runProgram (arguments : List String) : IO (Option String) := do
  let output ← IO.getStdout
  let surroundings : Command.Surroundings := ⟨← environmentEntries, ← output.isTty, "(devel)"⟩
  match ← Command.Program.run computerFiles surroundings (arguments.map Text.ofString) with
  | .finished result =>
    output.write ⟨result.output.toArray⟩
    output.flush
    (← IO.getStderr).write ⟨result.errorOutput.toArray⟩
    pure result.error
  | .serving plan =>
    match ← openLog plan with
    | .error e => pure (some (Command.failureText e.message))
    | .ok log =>
      let failure ← serve plan surroundings.version ⟨← IO.getStdin, output, log⟩
      pure (failure.map Command.failureText)

end CallLight

def main (arguments : List String) : IO UInt32 := do
  match ← CallLight.runProgram arguments with
  | none => pure 0
  | some failure =>
    IO.eprintln failure
    pure 1
