import CallLight.Config.Hcl.Decode
import CallLight.Config.Yaml.Decode

/-!
# Settings files

A settings file is in YAML if its name ends that way, and in HCL otherwise.
-/

namespace CallLight.Config

/-- Why a settings file is refused. -/
inductive Refusal where
  /-- The file is no HCL. -/
  | hclSyntax
  /-- The file is HCL that gives no settings. -/
  | hclContent
  /-- The file is no YAML, or gives no settings. -/
  | yaml
  /-- The settings are refused. -/
  | invalid (cause : Invalid)
deriving DecidableEq, Repr

def Refusal.message : Refusal → String
  | .hclSyntax => "parsing HCL"
  | .hclContent => "decoding HCL"
  | .yaml => "parsing YAML"
  | .invalid cause => cause.message

/-- The extension of a path: from the last dot on, if no slash follows it. -/
def extension (path : Text) : Text :=
  let name := (path.reverse.takeWhile (· != 0x2F)).reverse
  if name.contains 0x2E then 0x2E :: (name.reverse.takeWhile (· != 0x2E)).reverse else []

/-- Whether a settings file of that path is in YAML. -/
def isYaml (path : Text) : Bool :=
  let lower := (extension path).map fun b => if 0x41 ≤ b && b ≤ 0x5A then b + 0x20 else b
  lower == Text.ofString ".yaml" || lower == Text.ofString ".yml"

/-- Reads what a settings file says. -/
def read (path data : Text) (environment : List String) : Except Refusal Config :=
  if isYaml path then
    match Yaml.decode data with
    | some c => .ok c
    | none => .error .yaml
  else
    match Hcl.parse data with
    | none => .error .hclSyntax
    | some body =>
      match Hcl.decode environment body with
      | some c => .ok c
      | none => .error .hclContent

/-- The settings of a file: what it says, with the defaults filled in, if that is fit for use. -/
def parse (path data : Text) (environment : List String) : Except Refusal Config :=
  match read path data environment with
  | .error refusal => .error refusal
  | .ok said =>
    let c := said.withDefaults
    match c.check with
    | some cause => .error (.invalid cause)
    | none => .ok c

end CallLight.Config
