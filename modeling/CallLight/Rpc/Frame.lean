import CallLight.Text.Blank
import CallLight.Text.Integer
import CallLight.Text.Quoted

/-!
# Frames

Messages travel in frames: header lines, an empty line, and a body of the length that the header
gives. Frames are cut off the front of what has come in so far.
-/

namespace CallLight.Rpc

/-- Why input is no frame. -/
inductive FrameError where
  | invalidHeader
  | missingLength
  | invalidLength
  /-- The input ends within a body. -/
  | truncated
  | wrongType (got : Text)
deriving DecidableEq, Repr

/-- The content type of a body, if the header names one. -/
def contentType : Text := Text.ofString "application/vscode-jsonrpc; charset=utf-8"

def FrameError.message : FrameError → String
  | .invalidHeader => "invalid header line"
  | .missingLength => "missing required content-length"
  | .invalidLength => "invalid content-length"
  | .truncated => "unexpected EOF"
  | .wrongType got =>
    "content type mismatch: got " ++ Text.quote got ++ ", want " ++ Text.quote contentType

/-- What the header lines have said so far. Empty is as good as not said. -/
structure Header where
  length : Text
  type : Text
deriving DecidableEq, Repr

/-- What can be cut off the front of the input. -/
inductive FrameStep where
  /-- More input is needed. -/
  | waiting
  | frame (body rest : Text)
  /-- The input has come to an end. -/
  | finished
  | broken (error : FrameError)
deriving DecidableEq, Repr

/-- The input up to the first line feed, and what follows it. -/
def cutLine? : Text → Option (Text × Text)
  | [] => none
  | b :: rest =>
    if b == 0x0A then some ([], rest)
    else (cutLine? rest).map fun (line, rest) => (b :: line, rest)

/-- Text without white space at its ends. -/
def trim (t : Text) : Text :=
  let blank (c : Char) := Text.isWhiteSpace c.toNat
  Text.ofChars ((((Text.chars t).dropWhile blank).reverse.dropWhile blank).reverse)

/-- Reads a header line. -/
def Header.read? (h : Header) (line : Text) : Option Header :=
  if !line.contains 0x3A then none
  else
    let name := (line.takeWhile (· != 0x3A)).map fun b =>
      if 0x41 ≤ b && b ≤ 0x5A then b + 0x20 else b
    let value := trim ((line.dropWhile (· != 0x3A)).drop 1)
    if name == Text.ofString "content-length" then some { h with length := value }
    else if name == Text.ofString "content-type" then some { h with type := value }
    else some h

/-- Cuts off the body behind a header. -/
def Header.body (h : Header) (input : Text) (closed : Bool) : FrameStep :=
  if h.length.isEmpty then .broken .missingLength
  else
    match (Text.integer? (Text.toStringLossy h.length)).bind Int.toNat? with
    | none => .broken .invalidLength
    | some n =>
      if input.length < n then
        if !closed then .waiting else if input.isEmpty then .finished else .broken .truncated
      else if !h.type.isEmpty && h.type != contentType then .broken (.wrongType h.type)
      else .frame (input.take n) (input.drop n)

/-- Cuts off header lines and a body; `fuel` bounds the number of lines. -/
def cutFrame : (fuel : Nat) → Header → (input : Text) → (closed : Bool) → FrameStep
  | 0, _, _, _ => .waiting
  | fuel + 1, h, input, closed =>
    -- the last line of input that has ended need not have a line feed
    match cutLine? input with
    | none =>
      if !closed then .waiting
      else if input.isEmpty then .finished
      else next fuel h input [] closed
    | some (line, rest) => next fuel h line rest closed
where
  /-- Reads a line and goes on behind it. -/
  next (fuel : Nat) (h : Header) (line rest : Text) (closed : Bool) : FrameStep :=
    let line := (line.reverse.dropWhile fun b => b == 0x0D || b == 0x0A).reverse
    if line.isEmpty then h.body rest closed
    else
      match h.read? line with
      | none => .broken .invalidHeader
      | some h => cutFrame fuel h rest closed

/-- Cuts a frame off the input; `closed` says that no more will come. -/
def FrameStep.of (input : Text) (closed : Bool) : FrameStep :=
  cutFrame (input.length + 2) ⟨[], []⟩ input closed

/-- How many bytes of a body are missing, if its header is complete and says how long it is. -/
def missingFrom? : (fuel : Nat) → Header → (input : Text) → Option Nat
  | 0, _, _ => none
  | fuel + 1, h, input =>
    match cutLine? input with
    | none => none
    | some (line, rest) =>
      if line.all fun b => b == 0x0D || b == 0x0A then
        ((Text.integer? (Text.toStringLossy h.length)).bind Int.toNat?).map (· - rest.length)
      else (h.read? line).bind fun h => missingFrom? fuel h rest

/-- How many bytes of the body at the front of the input are missing, if that is known. -/
def missing? (input : Text) : Option Nat :=
  (missingFrom? (input.length + 1) ⟨[], []⟩ input).filter (0 < ·)

/-- A body in its frame. -/
def frame (body : Text) : Text :=
  Text.ofString ("Content-Length: " ++ toString body.length ++ "\r\n\r\n") ++ body

end CallLight.Rpc
