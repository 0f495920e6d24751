/-!
# Failures of requests

A failure has a cause and the contexts it passed on its way up. What the client is told is a code
and a message: the code depends on the cause alone, the message names the contexts too.
-/

namespace CallLight.Rpc

/-- An error as the client sees it. -/
structure Error where
  code : Int
  message : String
deriving DecidableEq, Repr

namespace Error

/-- The error in words. -/
def text (e : Error) : String := "[" ++ toString e.code ++ "] " ++ e.message

/-! ### Codes -/

def parseCode : Int := -32700
def invalidRequestCode : Int := -32600
def unknownMethodCode : Int := -32601
def invalidParamsCode : Int := -32602
def internalCode : Int := -32603
def canceledCode : Int := -32800

/-- A request that is refused in the state the server is in. -/
def invalidRequest (message : String) : Error := ⟨invalidRequestCode, message⟩

/-- A request that asks for something that does not exist. -/
def invalidParams (message : String) : Error := ⟨invalidParamsCode, message⟩

end Error

/-- What went wrong first. -/
inductive Cause where
  /-- The work was called off. -/
  | canceled
  /-- The work took too long. -/
  | deadline
  /-- The request was refused. -/
  | refused (error : Error)
  /-- Anything else. -/
  | other (text : String)
deriving DecidableEq, Repr

def Cause.text : Cause → String
  | .canceled => "context canceled"
  | .deadline => "context deadline exceeded"
  | .refused error => error.text
  | .other text => text

/-- The code by which the client is told. -/
def Cause.code : Cause → Int
  | .canceled | .deadline => Error.canceledCode
  | .refused error => error.code
  | .other _ => Error.internalCode

/-- A failure: its cause, and in which contexts it arose, the innermost first. -/
structure Failure where
  cause : Cause
  contexts : List String
deriving DecidableEq, Repr

namespace Failure

/-- A failure in no context. -/
def ofCause (cause : Cause) : Failure := ⟨cause, []⟩

/-- A failure in one more context. -/
def within (f : Failure) (context : String) : Failure := ⟨f.cause, f.contexts ++ [context]⟩

/-- The failure in words. -/
def text (f : Failure) : String := f.contexts.foldl (fun text c => c ++ ": " ++ text) f.cause.text

/-- What the client is told. -/
def toError (f : Failure) : Error := ⟨f.cause.code, f.text⟩

end Failure

end CallLight.Rpc
