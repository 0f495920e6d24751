import CallLight.Config.Basic
import CallLight.Config.Hcl.Eval
import CallLight.Config.Hcl.Parser

/-!
# Settings in HCL

A settings file gives values to the known settings and to nothing else. Its expressions see the
process environment as the variable `env`.
-/

namespace CallLight.Hcl

/-- Splits `NAME=value`; an entry without a name is none. -/
def environmentEntry? (entry : String) : Option (String × String) :=
  let name := entry.toList.takeWhile (· != '=')
  match entry.toList.drop name.length with
  | _ :: value => if name.isEmpty then none else some (String.ofList name, String.ofList value)
  | [] => none

/-- The environment as an object. A later entry of the same name wins. -/
def environment (entries : List String) : List (String × Value) :=
  (entries.filterMap environmentEntry?).foldl (fun fields (name, value) =>
    insertField (Text.normalize name) (.ofString value) fields) []

/-- The names that a settings file may refer to. -/
def settingsScope (entries : List String) : Scope :=
  ⟨[("env", .object (environment entries))], .failed⟩

/-- The text that a value gives, if it gives one. -/
def Value.asText : Value → Option String
  | .string s => some s
  | _ => none

/-- Sets one of the settings. -/
def assign (config : Config) (name : String) (r : Result) : Option Config :=
  let want (t : Ty) := if r.ok then r.value.convert t else none
  match name with
  | "language_id" => do
    let s ← (← want .string).asText
    return { config with languageId := s }
  | "log_level" => do
    let s ← (← want .string).asText
    return { config with logLevel := s }
  | "client_log" =>
    match want .bool with
    | some (.bool b) => some { config with clientLog := b }
    | _ => none
  | "file_patterns" =>
    match want (.list .string) with
    | some (.list _ vs) => (vs.mapM Value.asText).map fun ps => { config with filePatterns := ps }
    | some (.null _) => some { config with filePatterns := [] }
    | _ => none
  | _ => none

/-- The settings of a file; `none` if an entry has no place or a value of the wrong kind. -/
def decode (entries : List String) (b : Body) : Option Config :=
  if b.hasBlocks then none
  else
    b.attributes.foldlM
      (fun config (name, e) => assign config name (eval (settingsScope entries) e))
      Config.empty

end CallLight.Hcl
