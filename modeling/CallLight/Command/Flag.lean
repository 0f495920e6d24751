import CallLight.Text.Quoted

/-!
# Flags of a command

Flags may stand anywhere among the arguments of a command, up to `--`. A switch stands alone or is
given a truth value behind `=`; any other flag has a value, behind `=` or as the next argument.
Switches can have a letter, and letters can be put together behind one dash.
-/

namespace CallLight.Command

/-- A flag of a command. -/
structure Flag where
  name : String
  letter : Option UInt8
  isSwitch : Bool
deriving DecidableEq, Repr

namespace Flag

/-- A switch. -/
def switch (name : String) : Flag := ⟨name, none, true⟩

/-- A flag with a value. -/
def value (name : String) : Flag := ⟨name, none, false⟩

/-- The switch that asks for help. -/
def help : Flag := ⟨"help", some 0x68, true⟩

/-- The switch that asks for the version. -/
def version : Flag := ⟨"version", some 0x76, true⟩

/-- How a flag is shown. -/
def label (f : Flag) : String :=
  match f.letter with
  | none => "--" ++ f.name
  | some b => "-" ++ String.singleton (Char.ofNat b.toNat) ++ ", --" ++ f.name

end Flag

/-- Why arguments are refused. -/
inductive UsageError where
  | badFlag (argument : Text)
  | unknownFlag (name : Text)
  | unknownLetter (letter : UInt8) (letters : Text)
  | missingValue (argument : Text)
  | notBoolean (value : Text) (flag : Flag)
  | unknownCommand (name : Text) (suggestions : List String)
deriving DecidableEq, Repr

/-- A byte in single quotes. -/
def quoteByte (b : UInt8) : String :=
  if b == 0x27 then "'\\''"
  else if b == 0x22 then "'\"'"
  else "'" ++ Text.quoteRune b ⟨b.toNat, 0⟩ ++ "'"

def UsageError.message : UsageError → String
  | .badFlag argument => "bad flag syntax: " ++ Text.toStringLossy argument
  | .unknownFlag name => "unknown flag: --" ++ Text.toStringLossy name
  | .unknownLetter letter letters =>
    "unknown shorthand flag: " ++ quoteByte letter ++ " in -" ++ Text.toStringLossy letters
  | .missingValue argument => "flag needs an argument: " ++ Text.toStringLossy argument
  | .notBoolean value flag =>
    "invalid argument " ++ Text.quote value ++ " for \"" ++ flag.label ++
      "\" flag: strconv.ParseBool: parsing " ++ Text.quote value ++ ": invalid syntax"
  | .unknownCommand name suggestions =>
    "unknown command " ++ Text.quote name ++ " for \"scrustls\"" ++
      (if suggestions.isEmpty then ""
      else "\n\nDid you mean this?\n" ++ String.join (suggestions.map fun s => "\t" ++ s ++ "\n"))

/-- What a flag is set to. -/
inductive Setting where
  | on (b : Bool)
  | text (t : Text)
deriving DecidableEq, Repr

/-- The truth value of a text. -/
def boolean? (t : Text) : Option Bool :=
  if ["1", "t", "T", "TRUE", "true", "True"].any (Text.ofString · == t) then some true
  else if ["0", "f", "F", "FALSE", "false", "False"].any (Text.ofString · == t) then some false
  else none

/-- The setting of a flag by a text. -/
def Flag.set (f : Flag) (value : Text) : Except UsageError (String × Setting) :=
  if f.isSwitch then
    match boolean? value with
    | some b => .ok (f.name, .on b)
    | none => .error (.notBoolean value f)
  else .ok (f.name, .text value)

/-- What the arguments of a command say: the settings in order, and the arguments that are no
flags. -/
structure Arguments where
  settings : List (String × Setting)
  operands : List Text
deriving Repr

namespace Arguments

/-- The last setting of a switch; off if there is none. -/
def isOn (a : Arguments) (name : String) : Bool :=
  match a.settings.reverse.lookup name with
  | some (.on b) => b
  | _ => false

/-- The last setting of a flag with a value. -/
def text (a : Arguments) (name : String) (default : Text) : Text :=
  match a.settings.reverse.lookup name with
  | some (.text t) => t
  | _ => default

end Arguments

def dash : UInt8 := 0x2D

def equalsSign : UInt8 := 0x3D

/-- The settings of letters behind one dash. All letters are switches. -/
def letterSettings (flags : List Flag) : Text → Except UsageError (List (String × Setting))
  | [] => .ok []
  | b :: rest =>
    if (Text.dropLead? (Text.ofString "test.") (b :: rest)).isSome then .ok []
    else
      match flags.find? (·.letter == some b) with
      | none => .error (.unknownLetter b (b :: rest))
      | some f =>
        if rest.head? == some equalsSign && 1 < rest.length then
          match f.set (rest.drop 1) with
          | .error e => .error e
          | .ok s => .ok [s]
        else
          match letterSettings flags rest with
          | .error e => .error e
          | .ok others => .ok ((f.name, .on true) :: others)

/-- A flag by name: its setting, or the flag if its value is the next argument. -/
def namedSetting (flags : List Flag) (argument : Text) :
    Except UsageError ((String × Setting) ⊕ Flag) :=
  let body := argument.drop 2
  if body.head? == some dash || body.head? == some equalsSign then .error (.badFlag argument)
  else
    let name := body.takeWhile (· != equalsSign)
    match flags.find? (Text.ofString ·.name == name) with
    | none => .error (.unknownFlag name)
    | some f =>
      if name.length < body.length then (f.set (body.drop (name.length + 1))).map .inl
      else if f.isSwitch then .ok (.inl (f.name, .on true))
      else .ok (.inr f)

/-- Reads the arguments of a command with those flags. -/
def readArguments (flags : List Flag) : List Text → Except UsageError Arguments
  | [] => .ok ⟨[], []⟩
  | argument :: rest =>
    let withSettings (settings : List (String × Setting)) (a : Arguments) : Arguments :=
      { a with settings := settings ++ a.settings }
    if argument.head? != some dash || argument.length == 1 then
      (readArguments flags rest).map fun a => { a with operands := argument :: a.operands }
    else if argument == [dash, dash] then .ok ⟨[], rest⟩
    else if argument[1]? == some dash then
      match namedSetting flags argument with
      | .error e => .error e
      | .ok (.inl s) => (readArguments flags rest).map (withSettings [s])
      | .ok (.inr f) =>
        match rest with
        | [] => .error (.missingValue argument)
        | value :: rest =>
          match f.set value with
          | .error e => .error e
          | .ok s => (readArguments flags rest).map (withSettings [s])
    else
      match letterSettings flags (argument.drop 1) with
      | .error e => .error e
      | .ok settings => (readArguments flags rest).map (withSettings settings)

end CallLight.Command
