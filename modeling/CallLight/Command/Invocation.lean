import CallLight.Command.Flag
import CallLight.Config.Basic

/-!
# What the program is asked to do

The first argument that is no flag names the command. Beside the commands there are switches for
help and for the version.
-/

namespace CallLight.Command

/-- The commands. -/
inductive Name where
  | rawVersion | serve | tokens | help | completion
deriving DecidableEq, Repr

def Name.text : Name → String
  | .rawVersion => "raw-version"
  | .serve => "serve-lsp"
  | .tokens => "tokens"
  | .help => "help"
  | .completion => "completion"

def Name.all : List Name := [.rawVersion, .serve, .tokens, .help, .completion]

/-- The commands that a mistyped name may have meant. -/
def Name.suggested : List Name := [.serve, .tokens, .completion]

/-- What the language server is started with. -/
structure ServeOptions where
  debug : Bool
  configPath : Text
  /-- The file for the log; empty for standard error. -/
  logFile : Text
deriving DecidableEq, Repr

/-- What tokens are printed with. -/
structure TokensOptions where
  json : Bool
  noColor : Bool
  configPath : Text
deriving DecidableEq, Repr

/-- What the program is asked to do. -/
inductive Invocation where
  | help (topic : Option Name)
  | version
  | rawVersion
  | serve (options : ServeOptions)
  | tokens (options : TokensOptions) (operands : List Text)
deriving DecidableEq, Repr

/-! ## Mistyped names -/

/-- A row of the table of distances below another one; `left` is the number before it in the new
row. -/
def distanceRow (b : UInt8) (left : Nat) : Text → List Nat → List Nat
  | c :: cs, diagonal :: up :: row =>
    let n := min (min (left + 1) (up + 1)) (diagonal + if b == c then 0 else 1)
    n :: distanceRow b n cs (up :: row)
  | _, _ => []

/-- How many bytes have to be put in, left out or replaced to get from one text to another. -/
def distance (s t : Text) : Nat :=
  let row := s.foldl (fun row b =>
    let first := row.headD 0 + 1
    first :: distanceRow b first t row) (List.range (t.length + 1))
  row.getLastD 0

/-- Small letters for capitals. -/
def lower (t : Text) : Text := t.map fun b => if 0x41 ≤ b && b ≤ 0x5A then b + 0x20 else b

/-- The commands that a mistyped name may have meant: it is how they begin, or at most two bytes are
wrong. -/
def suggestions (name : Text) : List String :=
  (Name.suggested.map Name.text).filter fun known =>
    let known := Text.ofString known
    distance (lower name) known ≤ 2 || (Text.dropLead? (lower name) known).isSome

/-! ## Finding the command -/

/-- Whether the argument behind this one may be its value. Before the command is known, no flag
is. -/
def mayTakeNext (argument : Text) : Bool :=
  argument.head? == some dash && !argument.contains equalsSign &&
    (argument.length == 2 || argument[1]? == some dash)

/-- The first argument that is neither a flag nor the value of one. -/
def firstOperand? : List Text → Option Text
  | [] => none
  | argument :: rest =>
    if argument == [dash, dash] then none
    else if mayTakeNext argument then
      match rest with
      | [] | [_] => none
      | _ :: rest => firstOperand? rest
    else if argument.isEmpty || argument.head? == some dash then firstOperand? rest
    else some argument

/-- The arguments without the name of the command. -/
def withoutName (name : Text) : List Text → List Text
  | [] => []
  | argument :: rest =>
    if argument == [dash, dash] then argument :: rest
    else if mayTakeNext argument then
      match rest with
      | [] => [argument]
      | value :: rest => argument :: value :: withoutName name rest
    else if argument == name then rest
    else argument :: withoutName name rest

/-- Asks for help if the arguments do, and for something else otherwise. -/
def unlessHelp (topic : Option Name) (a : Arguments) (otherwise : Invocation) : Invocation :=
  if a.isOn "help" then .help topic else otherwise

/-- Where settings are looked for if nothing is said. -/
def defaultConfigPath : Text := Text.ofString Config.defaultFileName

/-- What a command with those arguments asks for. -/
def Name.invocation (name : Name) (arguments : List Text) : Except UsageError Invocation :=
  match name with
  | .rawVersion => (readArguments [.help] arguments).map fun a => unlessHelp name a .rawVersion
  | .serve =>
    let flags := [.help, .switch "debug", .value "config", .value "log-file"]
    (readArguments flags arguments).map fun a =>
      unlessHelp name a
        (.serve ⟨a.isOn "debug", a.text "config" defaultConfigPath, a.text "log-file" []⟩)
  | .tokens =>
    let flags := [.help, .switch "json", .switch "no-color", .value "config"]
    (readArguments flags arguments).map fun a =>
      unlessHelp name a
        (.tokens ⟨a.isOn "json", a.isOn "no-color", a.text "config" defaultConfigPath⟩ a.operands)
  | .help => .ok (.help ((Name.all.find? fun n => arguments.head? == some (Text.ofString n.text))))
  | .completion => .ok (.help none)

/-- What the program is asked to do by its arguments. -/
def Invocation.ofArguments (arguments : List Text) : Except UsageError Invocation :=
  match firstOperand? arguments with
  | none =>
    (readArguments [.help, .version] arguments).map fun a =>
      unlessHelp none a (if a.isOn "version" then .version else .help none)
  | some name =>
    match Name.all.find? (Text.ofString ·.text == name) with
    | some command => command.invocation (withoutName name arguments)
    | none => .error (.unknownCommand name (suggestions name))

end CallLight.Command
