import CallLight.Command.Help
import CallLight.Command.Serve
import CallLight.Command.Tokens

/-!
# The program

What comes of a run of the program: either it is done, or it goes on as a language server.
-/

namespace CallLight.Command

/-- What the program was started with. -/
structure Surroundings where
  /-- The variables, each as its name, `=` and its value. -/
  environment : List String
  /-- Whether output goes to a terminal. -/
  terminal : Bool
  version : String

/-- The value of a variable; empty if there is none. -/
def Surroundings.valueOf (s : Surroundings) (name : String) : String :=
  let lead := (name ++ "=").toList
  match s.environment.find? fun entry => lead.isPrefixOf entry.toList with
  | some entry => String.ofList (entry.toList.drop lead.length)
  | none => ""

/-- How tokens are printed. Colors are for terminals, unless they are not wanted. -/
def TokensOptions.mode (o : TokensOptions) (s : Surroundings) : OutputMode :=
  if o.json then .json else .table (s.terminal && s.valueOf "NO_COLOR" == "" && !o.noColor)

/-- What the program writes when it is done. -/
structure Finished where
  output : Text
  errorOutput : Text
  /-- Why it failed. -/
  error : Option String
deriving DecidableEq, Repr

/-- What comes of a run. -/
inductive Program where
  | finished (result : Finished)
  | serving (plan : ServePlan)

/-- What a failure reads. -/
def failureText (message : String) : String := "failed to execute command: " ++ message

def Program.succeed (output errorOutput : String) : Program :=
  .finished ⟨Text.ofString output, Text.ofString errorOutput, none⟩

def Program.fail (message : String) : Program := .finished ⟨[], [], some (failureText message)⟩

variable {m : Type → Type} [Monad m]

/-- Does what is asked for. -/
def Invocation.run (fs : FileSystem m) (s : Surroundings) : Invocation → m Program
  | .help topic => pure (.succeed (helpText topic) "")
  | .version => pure (.succeed ("scrustls version " ++ s.version ++ "\n") "")
  | .rawVersion => pure (.succeed "" (s.version ++ "\n"))
  | .serve options => do
    match ← planServe fs s.environment options with
    | .ok plan => pure (.serving plan)
    | .error e => pure (.fail e.message)
  | .tokens options operands => do
    let outcome ← runTokens fs s.environment options.configPath (options.mode s) operands .never
    pure (.finished ⟨outcome.output, [], outcome.error.map fun e => failureText e.message⟩)

/-- Runs the program with arguments. -/
def Program.run (fs : FileSystem m) (s : Surroundings) (arguments : List Text) : m Program :=
  match Invocation.ofArguments arguments with
  | .ok invocation => invocation.run fs s
  | .error e => pure (.fail e.message)

end CallLight.Command
