import CallLight.Script.Word
import CallLight.Token.Basic

/-!
# Procedure calls of a script

Two passes over the text: the first collects what is declared, the second finds the calls of it. The
name in a declaration looks like a call too and is left out.
-/

namespace CallLight.Script

/-- The declarations of a text: the names, and where they stand. -/
structure Definitions where
  names : List Text
  offsets : List Nat
deriving Repr

/-- The two passes. -/
inductive Pass where
  | definitions
  | calls
deriving DecidableEq, Repr

/-- A pass that was called off. -/
structure Canceled where
  pass : Pass
deriving DecidableEq, Repr

namespace Canceled

/-- The cause, in words. -/
def cause : String := "context canceled"

/-- What the pass was doing. -/
def activity (e : Canceled) : String :=
  match e.pass with
  | .definitions => "collecting procedure definitions"
  | .calls => "locating procedure calls"

def message (e : Canceled) : String := e.activity ++ ": " ++ cause

/-- What both passes are for. -/
def purpose : String := "generating semantic tokens"

/-- What a request for tokens says when it is called off. -/
def generating (e : Canceled) : String := purpose ++ ": " ++ e.message

end Canceled

/-- Work that can be called off: the result with what is left of the checks, or the pass that was
not finished. -/
abbrev Cancelable (α : Type) := Except Canceled (α × Cancellation)

/-- The first pass. -/
def collectDefinitions (t : Text) (c : Cancellation) : Cancelable Definitions :=
  match scan declarationAt? t c with
  | none => .error ⟨.definitions⟩
  | some (os, c) => .ok (⟨os.map (·.name), os.map (·.offset)⟩, c)

/-- Whether an occurrence is a call of something declared. -/
def Definitions.isCall (d : Definitions) (o : Occurrence) : Bool :=
  d.names.contains o.name && !d.offsets.contains o.offset

/-- The token of a call. -/
def Occurrence.token (o : Occurrence) : Token :=
  ⟨.function, .declaration, ⟨o.offset, o.name⟩⟩

/-- The second pass: one token per call, in document order. -/
def locateCalls (t : Text) (d : Definitions) (c : Cancellation) : Cancelable (List Token) :=
  match scan callAt? t c with
  | none => .error ⟨.calls⟩
  | some (os, c) => .ok ((os.filter d.isCall).map (·.token), c)

/-- The tokens of a text. -/
def tokens (t : Text) (c : Cancellation) : Cancelable (List Token) :=
  match collectDefinitions t c with
  | .error e => .error e
  | .ok (d, c) => locateCalls t d c

/-- The tokens that overlap a span. Declarations may stand outside of it, so the whole text is
read. -/
def tokensIn (t : Text) (s : Span) (c : Cancellation) : Cancelable (List Token) :=
  match tokens t c with
  | .error e => .error e
  | .ok (ts, c) => .ok (ts.filter (·.span.overlaps s), c)

end CallLight.Script
