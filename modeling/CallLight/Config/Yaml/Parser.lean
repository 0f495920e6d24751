import CallLight.Config.Yaml.Scanner

/-!
# Parser of YAML

From words to the tree of the first document of a stream. What follows that document is looked at
only as far as the scanner has to.
-/

namespace CallLight.Yaml

/-- A node of a document. -/
inductive Node where
  /-- A scalar with its tag in short form, empty if it has none. -/
  | scalar (tag text : String) (plain : Bool)
  | sequence (items : List Node)
  | mapping (entries : List (Node × Node))
  /-- A reference to a node that was named before. -/
  | alias (name : String) (target : Node)
  /-- A node that refers to a node around itself. -/
  | cycle

namespace Node

/-- The scalar that stands where nothing is written. -/
def empty : Node := .scalar "" "" true

end Node

/-- A name given to a node. A node that is still being read has none yet. -/
structure Anchor where
  name : String
  id : Nat
  node : Option Node

/-- The state of the parser. -/
structure Reader where
  words : Scanner
  /-- The names given so far, the latest first. -/
  anchors : List Anchor
  /-- What the handles of tags stand for. -/
  handles : List (String × String)

namespace Reader

def peek (r : Reader) : Option (Token × Reader) :=
  r.words.peek.map fun (t, s) => (t, { r with words := s })

def skip (r : Reader) : Reader := { r with words := r.words.skip }

/-- Names a node that is about to be read. -/
def openAnchor (r : Reader) (name : Option String) : Reader :=
  match name with
  | none => r
  | some n => { r with anchors := ⟨n, r.words.taken, none⟩ :: r.anchors }

/-- Fills in a node that was named when its reading started at word `id`. -/
def closeAnchor (r : Reader) (id : Nat) (name : Option String) (node : Node) : Reader :=
  match name with
  | none => r
  | some n =>
    { r with anchors := r.anchors.map fun a =>
        if a.name == n && a.id == id then { a with node := some node } else a }

/-- The node of a name. -/
def resolve (r : Reader) (name : String) : Option Node :=
  (r.anchors.find? fun a => a.name == name).map fun a => a.node.getD .cycle

/-- The full text of a tag. -/
def expandTag (r : Reader) (handle rest : String) : Option String :=
  if handle == "" then some rest
  else
    match r.handles.find? fun (h, _) => h == handle with
    | some (_, lead) => some (lead ++ rest)
    | none => none

end Reader

/-- The lead of the tags that belong to the language itself. -/
def coreTagLead : String := "tag:yaml.org,2002:"

/-- A tag in short form; the non-specific tag says nothing. -/
def shortTag (tag : String) : String :=
  if tag == "!" then ""
  else if tag.startsWith coreTagLead then "!!" ++ String.ofList (tag.toList.drop coreTagLead.length)
  else tag

/-- The properties in front of a node: its name and its tag, in either order. -/
structure Properties where
  anchor : Option String
  tag : Option String

/-- Reads an anchor, if there is one. -/
def readAnchor (r : Reader) : Option (Option String × Reader) :=
  r.peek.map fun
    | (.anchor name, r) => (some name, r.skip)
    | (_, r) => (none, r)

/-- Reads a tag, if there is one. -/
def readTag (r : Reader) : Option (Option (String × String) × Reader) :=
  r.peek.map fun
    | (.tag handle rest, r) => (some (handle, rest), r.skip)
    | (_, r) => (none, r)

/-- Reads the properties in front of a node. -/
def readProperties (r : Reader) : Option (Properties × Reader) := do
  let (first, r) ← readAnchor r
  let (tag, r) ← readTag r
  let (second, r) ← if first.isNone && tag.isSome then readAnchor r else some (none, r)
  let full ← match tag with
    | none => some none
    | some (handle, rest) => (r.expandTag handle rest).map some
  return (⟨first.or second, full⟩, r)

/-- A node without content needs a name or a tag. -/
def nothing (properties : Properties) (tag : String) (r : Reader) : Option (Node × Reader) :=
  if properties.anchor.isSome || properties.tag.isSome then some (.scalar tag "" true, r) else none

mutual

/-- A node. `block` says whether it may be a block collection, and `indentless` whether the entries
of a sequence may start at the column of the key around it. -/
def node : (fuel : Nat) → (block indentless : Bool) → Reader → Option (Node × Reader)
  | 0, _, _, _ => none
  | fuel + 1, block, indentless, r => do
    match ← r.peek with
    | (.alias name, r) =>
      let target ← r.resolve name
      return (.alias name target, r.skip)
    | (_, r) =>
      let (properties, r) ← readProperties r
      let id := r.words.taken
      let r := r.openAnchor properties.anchor
      let (n, r) ← content fuel block indentless properties r
      return (n, r.closeAnchor id properties.anchor n)

/-- The content of a node. -/
def content :
    (fuel : Nat) → (block indentless : Bool) → Properties → Reader → Option (Node × Reader)
  | 0, _, _, _, _ => none
  | fuel + 1, block, indentless, properties, r => do
    let tag := shortTag (properties.tag.getD "")
    match ← r.peek with
    | (.blockEntry, r) =>
      if indentless then
        let (items, r) ← indentlessEntries fuel r
        return (.sequence items, r)
      else nothing properties tag r
    | (.scalar text plain, r) => return (.scalar tag text plain, r.skip)
    | (.flowSequenceStart, r) =>
      let (items, r) ← flowEntries fuel true r.skip
      return (.sequence items, r)
    | (.flowMappingStart, r) =>
      let (entries, r) ← flowPairs fuel true r.skip
      return (.mapping entries, r)
    | (.blockSequenceStart, r) =>
      if block then
        let (items, r) ← blockEntries fuel r.skip
        return (.sequence items, r)
      else nothing properties tag r
    | (.blockMappingStart, r) =>
      if block then
        let (entries, r) ← blockPairs fuel r.skip
        return (.mapping entries, r)
      else nothing properties tag r
    | (_, r) => nothing properties tag r

/-- The entries of a block sequence and the word that ends them. -/
def blockEntries : (fuel : Nat) → Reader → Option (List Node × Reader)
  | 0, _ => none
  | fuel + 1, r => do
    match ← r.peek with
    | (.blockEntry, r) =>
      let (n, r) ← match ← r.skip.peek with
        | (.blockEntry, r) => some (.empty, r)
        | (.blockEnd, r) => some (.empty, r)
        | (_, r) => node fuel true false r
      let (ns, r) ← blockEntries fuel r
      return (n :: ns, r)
    | (.blockEnd, r) => return ([], r.skip)
    | _ => none

/-- The entries of a sequence that is no deeper than the key around it. -/
def indentlessEntries : (fuel : Nat) → Reader → Option (List Node × Reader)
  | 0, _ => none
  | fuel + 1, r => do
    match ← r.peek with
    | (.blockEntry, r) =>
      let (n, r) ← match ← r.skip.peek with
        | (.blockEntry, r) => some (.empty, r)
        | (.key, r) => some (.empty, r)
        | (.value, r) => some (.empty, r)
        | (.blockEnd, r) => some (.empty, r)
        | (_, r) => node fuel true false r
      let (ns, r) ← indentlessEntries fuel r
      return (n :: ns, r)
    | (_, r) => return ([], r)

/-- The key or the value of a block mapping, which may be left out. -/
def blockPart : (fuel : Nat) → Reader → Option (Node × Reader)
  | 0, _ => none
  | fuel + 1, r => do
    match ← r.peek with
    | (.key, r) => return (.empty, r)
    | (.value, r) => return (.empty, r)
    | (.blockEnd, r) => return (.empty, r)
    | (_, r) => node fuel true true r

/-- The entries of a block mapping and the word that ends them. -/
def blockPairs : (fuel : Nat) → Reader → Option (List (Node × Node) × Reader)
  | 0, _ => none
  | fuel + 1, r => do
    match ← r.peek with
    | (.key, r) =>
      let (k, r) ← blockPart fuel r.skip
      let (v, r) ← match ← r.peek with
        | (.value, r) => blockPart fuel r.skip
        | (_, r) => some (.empty, r)
      let (rest, r) ← blockPairs fuel r
      return ((k, v) :: rest, r)
    | (.blockEnd, r) => return ([], r.skip)
    | _ => none

/-- A pair in a flow sequence, behind the sign of its key. -/
def flowPair : (fuel : Nat) → Reader → Option ((Node × Node) × Reader)
  | 0, _ => none
  | fuel + 1, r => do
    let (k, r) ← match ← r.peek with
      | (.value, r) => some (.empty, r.skip)
      | (.flowEntry, r) => some (.empty, r.skip)
      | (.flowSequenceEnd, r) => some (.empty, r.skip)
      | (_, r) => node fuel false false r
    let (v, r) ← match ← r.peek with
      | (.value, r) =>
        match ← r.skip.peek with
        | (.flowEntry, r) => some (.empty, r)
        | (.flowSequenceEnd, r) => some (.empty, r)
        | (_, r) => node fuel false false r
      | (_, r) => some (.empty, r)
    return ((k, v), r)

/-- The entries of a flow sequence and the word that ends them. -/
def flowEntries : (fuel : Nat) → (first : Bool) → Reader → Option (List Node × Reader)
  | 0, _, _ => none
  | fuel + 1, first, r => do
    match ← r.peek with
    | (.flowSequenceEnd, r) => return ([], r.skip)
    | (t, r) =>
      let r ← match first, t with
        | true, _ => some r
        | false, .flowEntry => some r.skip
        | false, _ => none
      match ← r.peek with
      | (.flowSequenceEnd, r) => return ([], r.skip)
      | (.key, r) =>
        let (entry, r) ← flowPair fuel r.skip
        let (ns, r) ← flowEntries fuel false r
        return (.mapping [entry] :: ns, r)
      | (_, r) =>
        let (n, r) ← node fuel false false r
        let (ns, r) ← flowEntries fuel false r
        return (n :: ns, r)

/-- The key or the value of a flow mapping, which may be left out. -/
def flowPart : (fuel : Nat) → (key : Bool) → Reader → Option (Node × Reader)
  | 0, _, _ => none
  | fuel + 1, key, r => do
    match ← r.peek with
    | (.flowEntry, r) => return (.empty, r)
    | (.flowMappingEnd, r) => return (.empty, r)
    | (.value, r) => if key then return (.empty, r) else node fuel false false r
    | (_, r) => node fuel false false r

/-- The entries of a flow mapping and the word that ends them. -/
def flowPairs : (fuel : Nat) → (first : Bool) → Reader → Option (List (Node × Node) × Reader)
  | 0, _, _ => none
  | fuel + 1, first, r => do
    match ← r.peek with
    | (.flowMappingEnd, r) => return ([], r.skip)
    | (t, r) =>
      let r ← match first, t with
        | true, _ => some r
        | false, .flowEntry => some r.skip
        | false, _ => none
      match ← r.peek with
      | (.flowMappingEnd, r) => return ([], r.skip)
      | (.key, r) =>
        let (k, r) ← flowPart fuel true r.skip
        let (v, r) ← match ← r.peek with
          | (.value, r) => flowPart fuel false r.skip
          | (_, r) => some (.empty, r)
        let (rest, r) ← flowPairs fuel false r
        return ((k, v) :: rest, r)
      | (_, r) =>
        let (k, r) ← node fuel false false r
        -- the word behind a lone key is looked at, too
        let (_, r) ← r.peek
        let (rest, r) ← flowPairs fuel false r
        return ((k, .empty) :: rest, r)

end

/-- Reads the directives in front of a document. -/
def directives : (fuel : Nat) → (versioned : Bool) → Reader → Option Reader
  | 0, _, _ => none
  | fuel + 1, versioned, r => do
    match ← r.peek with
    | (.directive (.version major minor), r) =>
      if versioned || major != 1 || minor != 1 then none else directives fuel true r.skip
    | (.directive (.tag handle lead), r) =>
      if r.handles.any fun (h, _) => h == handle then none
      else directives fuel versioned { r.skip with handles := r.handles ++ [(handle, lead)] }
    | (_, r) => return r

/-- The handles that need no directive. -/
def defaultHandles : List (String × String) := [("!", "!"), ("!!", coreTagLead)]

/-- Reads the end of a document. -/
def documentEnd (r : Reader) : Option Reader :=
  r.peek.map fun
    | (.documentEnd, r) => r.skip
    | (_, r) => r

/-- What a stream holds. -/
inductive Stream where
  /-- No document at all. -/
  | empty
  /-- The root of the first document. -/
  | document (root : Node)

/-- Reads a document that starts with a marker. -/
def explicitDocument (fuel : Nat) (r : Reader) : Option Stream := do
  let r ← directives fuel false r
  let r := { r with handles := r.handles ++ defaultHandles }
  match ← r.peek with
  | (.documentStart, r) =>
    let (root, r) ← match ← r.skip.peek with
      | (.directive _, r) => some (.empty, r)
      | (.documentStart, r) => some (.empty, r)
      | (.documentEnd, r) => some (.empty, r)
      | (.streamEnd, r) => some (.empty, r)
      | (_, r) => node fuel true false r
    let _ ← documentEnd r
    return .document root
  | _ => none

/-- Reads a document without a marker. -/
def implicitDocument (fuel : Nat) (r : Reader) : Option Stream := do
  let (root, r) ← node fuel true false { r with handles := defaultHandles }
  let _ ← documentEnd r
  return .document root

/-- Reads the first document of a stream. -/
def parse (t : Text) : Option Stream := do
  let cs ← streamChars t
  let fuel := 8 * (cs.length + 8)
  match ← Reader.peek ⟨.start cs, [], []⟩ with
  | (_, r) =>
    match ← r.skip.peek with
    | (.streamEnd, _) => return .empty
    | (.directive _, r) => explicitDocument fuel r
    | (.documentStart, r) => explicitDocument fuel r
    | (_, r) => implicitDocument fuel r

end CallLight.Yaml
