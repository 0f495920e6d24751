import CallLight.Config.Basic
import CallLight.Config.Yaml.Resolve

/-!
# Settings in YAML

A settings file is a mapping from the names of the settings to their values. A merge key takes over
the entries of other mappings that are not given in the mapping itself.
-/

namespace CallLight.Yaml

namespace Node

/-- What makes two keys the same: the sort of node and its text. -/
def identity : Node → Nat × String
  | .scalar _ text _ => (0, text)
  | .alias name _ => (1, name)
  | .sequence _ => (2, "")
  | .mapping _ => (3, "")
  | .cycle => (4, "")

/-- Whether a key is the merge key, which is not in quotes. -/
def isMerge : Node → Bool
  | .scalar tag text plain => text == "<<" && ((tag == "" && plain) || tag == "!!merge")
  | _ => false

/-- The text of a scalar, for a place that takes one. `none` in the result is a scalar that stands
for nothing and leaves the place as it is. -/
def toText : Node → Option (Option String)
  | .scalar tag text plain =>
    (resolve tag text plain).map fun
      | .null => none
      | .string s => some s
      | _ => some text
  | .alias _ target => target.toText
  | _ => none

/-- The truth value of a scalar, for a place that takes one. -/
def toBool : Node → Option (Option Bool)
  | .scalar tag text plain =>
    (resolve tag text plain).bind fun
      | .null => some none
      | .bool b => some (some b)
      | .string s =>
        if ["y", "Y", "yes", "on"].contains s then some (some true)
        else if ["n", "N", "no", "off"].contains s then some (some false)
        else none
      | .other => none
  | .alias _ target => target.toBool
  | _ => none

/-- The texts of a sequence. Items that stand for nothing are left out. -/
def toTexts : Node → Option (List String)
  | .scalar tag text plain =>
    (resolve tag text plain).bind fun
      | .null => some []
      | _ => none
  | .sequence items => (items.mapM toText).map fun ts => ts.filterMap id
  | .alias _ target => target.toTexts
  | _ => none

/-- Whether no two keys are the same. -/
def distinctKeys : List (Node × Node) → Bool
  | [] => true
  | (k, _) :: rest => !(rest.any fun (l, _) => l.identity == k.identity) && distinctKeys rest

/-- Whether a node is a mapping, or names one. -/
def isMapping : Node → Bool
  | .mapping _ => true
  | .alias _ (.mapping _) => true
  | _ => false

end Node

/-- Sets one of the settings. -/
def assign (config : Config) (name : String) (value : Node) : Option Config :=
  match name with
  | "language_id" =>
    value.toText.map fun s => { config with languageId := s.getD config.languageId }
  | "log_level" => value.toText.map fun s => { config with logLevel := s.getD config.logLevel }
  | "client_log" => value.toBool.map fun b => { config with clientLog := b.getD config.clientLog }
  | "file_patterns" => value.toTexts.map fun ps => { config with filePatterns := ps }
  | _ => none

/-- Settings under way, and the names that are set already. A mapping may not set a name again, but
one that is merged into it may have more to say about such names, which is passed over. -/
structure Draft where
  config : Config
  closed : List String
  merging : Bool

/-- Takes over one entry. A key that stands for nothing is passed over with its value. -/
def takeEntry (draft : Draft) (key value : Node) : Option Draft :=
  if key.isMerge then some draft
  else
    key.toText.bind fun
      | none => some draft
      | some name =>
        if draft.closed.contains name then if draft.merging then some draft else none
        else
          (assign draft.config name value).map fun config =>
            { draft with config := config, closed := name :: draft.closed }

/-- The value of the merge key, if there is one. -/
def mergeSource (entries : List (Node × Node)) : Option Node :=
  (entries.find? fun (k, _) => k.isMerge).map (·.2)

/-- Takes over the entries of a mapping, and then those of the mappings that are merged into it. -/
def takeMapping : (fuel : Nat) → Draft → List (Node × Node) → Option Draft
  | 0, _, _ => none
  | fuel + 1, draft, entries => do
    if !Node.distinctKeys entries then none
    else
      let draft ← entries.foldlM (fun d (k, v) => takeEntry d k v) draft
      let draft := { draft with merging := true }
      let takeOne (draft : Draft) (n : Node) : Option Draft :=
        match n with
        | .mapping es => takeMapping fuel draft es
        | .alias _ (.mapping es) => takeMapping fuel draft es
        | _ => none
      match mergeSource entries with
      | none => return draft
      | some (.sequence items) => items.foldlM takeOne draft
      | some n => takeOne draft n

mutual

/-- The number of nodes, with those that are referred to. -/
def Node.size : Node → Nat
  | .scalar .. => 1
  | .sequence items => sizeAll items + 1
  | .mapping entries => sizePairs entries + 1
  | .alias _ target => target.size + 1
  | .cycle => 1

def sizeAll : List Node → Nat
  | [] => 0
  | n :: ns => n.size + sizeAll ns

def sizePairs : List (Node × Node) → Nat
  | [] => 0
  | (k, v) :: rest => k.size + v.size + sizePairs rest

end

/-- The settings that a root node gives. -/
def decodeRoot (root : Node) : Option Config :=
  match root with
  | .mapping entries =>
    (takeMapping (root.size + 1) ⟨.empty, [], false⟩ entries).map (·.config)
  | .scalar tag text plain =>
    (resolve tag text plain).bind fun
      | .null => some .empty
      | _ => none
  | _ => none

/-- The settings of a file. -/
def decode (t : Text) : Option Config :=
  (parse t).bind fun
    | .empty => some .empty
    | .document root => decodeRoot root

end CallLight.Yaml
