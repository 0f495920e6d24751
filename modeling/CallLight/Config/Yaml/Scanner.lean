import CallLight.Config.Yaml.Tag

/-!
# Scanner of YAML

From characters to words. Indentation shows as words that open and close a block. A mapping key
without a sign of its own is known only by the colon behind it, so the scanner remembers where a key
may have started and puts the words that open a key there afterwards. Words wait in a queue until no
such change can reach them.
-/

namespace CallLight.Yaml

/-- A word. -/
inductive Token where
  | streamStart
  | streamEnd
  | directive (directive : Directive)
  | documentStart
  | documentEnd
  | blockSequenceStart
  | blockMappingStart
  | blockEnd
  | flowSequenceStart
  | flowSequenceEnd
  | flowMappingStart
  | flowMappingEnd
  | blockEntry
  | flowEntry
  | key
  | value
  | alias (name : String)
  | anchor (name : String)
  | tag (handle rest : String)
  | scalar (text : String) (plain : Bool)
deriving Repr

/-- A place where a key may have started. -/
structure KeyStart where
  possible : Bool
  /-- Nothing but a key may stand there. -/
  required : Bool
  /-- The number of the word, counted from the start of the stream. -/
  number : Nat
  index : Nat
  line : Nat
  column : Nat
deriving Repr

def KeyStart.none : KeyStart := ⟨false, false, 0, 0, 0, 0⟩

/-- The state of the scanner. -/
structure Scanner where
  place : Cursor
  started : Bool
  /-- The key starts of the block and of the flow collections around the place, innermost first. -/
  keys : List KeyStart
  /-- Whether a key may start here. -/
  keyAllowed : Bool
  /-- The indentation of the block at hand, -1 outside of any block. -/
  indent : Int
  /-- The indentations of the blocks around it. -/
  indents : List Int
  /-- The words that wait. -/
  queue : List Token
  /-- The number of words that were taken. -/
  taken : Nat

namespace Scanner

def start (cs : List Char) : Scanner :=
  ⟨.start cs, false, [.none], true, -1, [], [], 0⟩

/-- The number of open flow collections. -/
def flowLevel (s : Scanner) : Nat := s.keys.length - 1

def inFlow (s : Scanner) : Bool := s.flowLevel != 0

def push (s : Scanner) (t : Token) : Scanner := { s with queue := s.queue ++ [t] }

/-- Puts a word before the one of a number. -/
def insert (s : Scanner) (number : Nat) (t : Token) : Scanner :=
  let i := number - s.taken
  { s with queue := s.queue.take i ++ t :: s.queue.drop i }

/-- Whether a key start still counts: the key has to be on one line and not too long. A required key
that does not count any more is a fault. -/
def keyStands (s : Scanner) (k : KeyStart) : Option Bool :=
  if !k.possible then some false
  else if k.line < s.place.line || k.index + 1024 < s.place.index then
    if k.required then none else some false
  else some true

/-- Forgets the key start of this level, which may not be a required one. -/
def dropKey (s : Scanner) : Option Scanner :=
  match s.keys with
  | k :: rest =>
    if k.possible && k.required then none
    else some { s with keys := { k with possible := false } :: rest }
  | [] => some s

/-- Remembers that a key may start here. -/
def saveKey (s : Scanner) : Option Scanner :=
  if !s.keyAllowed then some s
  else
    (dropKey s).map fun s =>
      let k : KeyStart :=
        ⟨true, !s.inFlow && s.indent == s.place.column, s.taken + s.queue.length, s.place.index,
          s.place.line, s.place.column⟩
      { s with keys := k :: s.keys.drop 1 }

/-- Opens a block if the column is deeper than the block at hand. The word goes before the one of a
number, or at the end. -/
def openBlock (s : Scanner) (column : Nat) (number : Option Nat) (t : Token) : Scanner :=
  if s.inFlow || (column : Int) ≤ s.indent then s
  else
    let s := { s with indents := s.indent :: s.indents, indent := column }
    match number with
    | some n => s.insert n t
    | none => s.push t

/-- Closes the blocks that are deeper than a column. -/
def closeBlocks (column : Int) : List Int → Scanner → Scanner
  | [], s => s
  | outer :: rest, s =>
    if s.inFlow || s.indent ≤ column then s
    else closeBlocks column rest { s.push .blockEnd with indent := outer, indents := rest }

/-- Leaves all blocks before a word that stands outside of them. -/
def leaveBlocks (s : Scanner) : Option Scanner :=
  (dropKey (closeBlocks (-1) s.indents s)).map fun s => { s with keyAllowed := false }

/-- Passes a comment line and those that follow it, up to a line break that is not passed. -/
def skipComments : (fuel : Nat) → Cursor → Cursor
  | 0, c => c
  | fuel + 1, c =>
    let c := c.skipToBreak
    let blanks := c.rest.takeWhile fun d => isBlank d || isBreak d
    if blanks.length < 512 && c.test blanks.length (· == '#') then
      skipComments fuel { c with
        rest := c.rest.drop blanks.length
        index := c.index + blanks.length
        line := c.line + (blanks.filter isBreak).length
        column := c.column + blanks.length }
    else c

/-- Passes blanks, comments and line breaks. -/
def skipSpace : (fuel : Nat) → Scanner → Scanner
  | 0, s => s
  | fuel + 1, s =>
    let c := s.place
    let c := if c.column == 0 && c.isAt '\ufeff' then c.skip else c
    let tabs := s.inFlow || !s.keyAllowed
    let c := c.skipWhile fun d => d == ' ' || (tabs && d == '\t')
    let c := if c.isAt '#' then skipComments (c.rest.length + 1) c else c
    if c.atBreak then
      skipSpace fuel { s with place := c.skipLine, keyAllowed := s.keyAllowed || !s.inFlow }
    else { s with place := c }

/-- Passes a comment behind a word on the same line. -/
def skipLineComment (s : Scanner) : Scanner :=
  let c := s.place
  let blanks := (c.rest.takeWhile isBlank).length
  if !c.fresh && blanks < 512 && c.test blanks (· == '#') then { s with place := c.skipToBreak }
  else s

/-- Takes a sign of one character. -/
def sign (t : Token) (s : Scanner) : Scanner := { s.push t with place := s.place.skip }

/-- The start of a flow collection. -/
def openFlow (t : Token) (s : Scanner) : Option Scanner :=
  (saveKey s).map fun s => sign t { s with keys := .none :: s.keys, keyAllowed := true }

/-- The end of a flow collection. -/
def closeFlow (t : Token) (s : Scanner) : Option Scanner :=
  (dropKey s).map fun s =>
    sign t { s with keys := if s.inFlow then s.keys.drop 1 else s.keys, keyAllowed := false }

/-- The sign between the entries of a flow collection. -/
def flowEntry (s : Scanner) : Option Scanner :=
  (dropKey s).map fun s => sign .flowEntry { s with keyAllowed := true }

/-- The sign of an entry of a block sequence. -/
def blockEntry (s : Scanner) : Option Scanner :=
  if !s.inFlow && !s.keyAllowed then none
  else
    (dropKey (openBlock s s.place.column none .blockSequenceStart)).map fun s =>
      sign .blockEntry { s with keyAllowed := true }

/-- The sign of a key. -/
def explicitKey (s : Scanner) : Option Scanner :=
  if !s.inFlow && !s.keyAllowed then none
  else
    (dropKey (openBlock s s.place.column none .blockMappingStart)).map fun s =>
      sign .key { s with keyAllowed := !s.inFlow }

/-- The sign of a value. If a key may have started on this level then it did. -/
def explicitValue (s : Scanner) : Option Scanner :=
  match s.keys with
  | [] => none
  | k :: rest =>
    (keyStands s k).bind fun stands =>
      if stands then
        let s := openBlock (s.insert k.number .key) k.column (some k.number) .blockMappingStart
        some (sign .value
          { s with keys := { k with possible := false } :: rest, keyAllowed := false })
      else
        let s := { s with keys := { k with possible := false } :: rest }
        if s.inFlow then some (sign .value { s with keyAllowed := false })
        else if !s.keyAllowed then none
        else some (sign .value (openBlock s s.place.column none .blockMappingStart))

/-- An anchor or an alias. -/
def name (make : String → Token) (s : Scanner) : Option Scanner :=
  (saveKey s).bind fun s =>
    let word := s.place.skip.rest.takeWhile isWordChar
    let c := s.place.skip.skipN word.length
    let ends := c.blankAhead 0 || c.test 0 fun d =>
      d == '?' || d == ':' || d == ',' || d == ']' || d == '\x7d' || d == '%' || d == '@' ||
        d == '\x60'
    if word.isEmpty || !ends then none
    else some { s.push (make (String.ofList word)) with place := c, keyAllowed := false }

/-- A tag. -/
def tag (s : Scanner) : Option Scanner := do
  let s ← saveKey s
  let (handle, rest, c) ← scanTag s.place
  return { s.push (.tag handle rest) with place := c, keyAllowed := false }

/-- A scalar in quotes. -/
def quoted (single : Bool) (s : Scanner) : Option Scanner := do
  let s ← saveKey s
  let (text, c) ← quotedScalar single s.place
  return { s.push (.scalar (String.ofList text) false) with place := c, keyAllowed := false }

/-- A plain scalar. A key may start behind it if it is followed by a line break. -/
def plain (s : Scanner) : Option Scanner := do
  let s ← saveKey s
  let (text, broken, c) ← plainScalar s.inFlow (s.indent + 1).toNat s.place
  return { s.push (.scalar (String.ofList text) true) with place := c, keyAllowed := broken }

/-- A block scalar. -/
def block (literal : Bool) (s : Scanner) : Option Scanner := do
  let s ← dropKey s
  let (text, c) ← blockScalar literal s.indent s.place
  return { s.push (.scalar (String.ofList text) false) with place := c, keyAllowed := true }

/-- Whether a plain scalar may start here. -/
def startsPlain (s : Scanner) : Bool :=
  let c := s.place
  let indicators :=
    ['-', '?', ':', ',', '[', ']', '\x7b', '\x7d', '#', '&', '*', '!', '|', '>', '\'', '"',
      '%', '@', '\x60']
  (!c.blankAhead 0 && !c.test 0 indicators.contains) ||
    (c.isAt '-' && !c.test 1 isBlank) ||
    (!s.inFlow && (c.isAt '?' || c.isAt ':') && !c.blankAhead 1)

/-- Reads a word inside of a document. -/
def readContent (s : Scanner) : Option Scanner :=
  let c := s.place
  if c.isAt '[' then openFlow .flowSequenceStart s
  else if c.isAt '\x7b' then openFlow .flowMappingStart s
  else if c.isAt ']' then closeFlow .flowSequenceEnd s
  else if c.isAt '\x7d' then closeFlow .flowMappingEnd s
  else if c.isAt ',' then flowEntry s
  else if c.isAt '?' && (s.inFlow || c.blankAhead 1) then explicitKey s
  else if c.isAt ':' && (s.inFlow || c.blankAhead 1) then explicitValue s
  else if c.isAt '*' then name .alias s
  else if c.isAt '&' then name .anchor s
  else if c.isAt '!' then tag s
  else if c.isAt '|' && !s.inFlow then block true s
  else if c.isAt '>' && !s.inFlow then block false s
  else if c.isAt '\'' then quoted true s
  else if c.isAt '"' then quoted false s
  else if startsPlain s then plain s
  else none

/-- The end of the stream, which ends a line if need be. -/
def endStream (s : Scanner) : Option Scanner :=
  let c := s.place
  let c := if c.column == 0 then c else { c with column := 0, line := c.line + 1 }
  (leaveBlocks { s with place := c }).map fun s => s.push .streamEnd

/-- A document marker. -/
def marker (t : Token) (s : Scanner) : Option Scanner :=
  (leaveBlocks s).map fun s => { s.push t with place := s.place.skipN 3 }

/-- Reads the next word into the queue. -/
def readWord (s : Scanner) : Option Scanner :=
  if !s.started then some { s.push .streamStart with started := true }
  else
    let s := skipSpace (s.place.rest.length + 1) s
    let s := closeBlocks s.place.column s.indents s
    let c := s.place
    if c.atEnd then endStream s
    else if c.column == 0 && c.isAt '%' then do
      let s ← leaveBlocks s
      let (d, c) ← scanDirective s.place
      return { s.push (.directive d) with place := c }
    else if c.atMarker '-' then marker .documentStart s
    else if c.atMarker '.' then marker .documentEnd s
    else if c.isAt '-' && c.blankAhead 1 then blockEntry s
    else (readContent s).map skipLineComment

/-- Whether the first word of the queue is settled: two more words wait behind it, and no key can
have started at it. -/
def settled (s : Scanner) : Option Bool :=
  if s.queue.length ≤ 2 then some false
  else
    match s.keys.find? fun k => k.possible && k.number == s.taken with
    | none => some true
    | some k => (keyStands s k).map (!·)

/-- Reads words until the first one is settled. -/
def fill : (fuel : Nat) → Scanner → Option Scanner
  | 0, _ => none
  | fuel + 1, s =>
    (settled s).bind fun done =>
      if done then some s else (readWord s).bind (fill fuel)

/-- The next word, with the state that has it at the front of the queue. -/
def peek (s : Scanner) : Option (Token × Scanner) :=
  (fill (s.place.rest.length + 8) s).bind fun s =>
    match s.queue with
    | t :: _ => some (t, s)
    | [] => none

/-- Takes the next word. -/
def skip (s : Scanner) : Scanner := { s with queue := s.queue.drop 1, taken := s.taken + 1 }

end Scanner

end CallLight.Yaml
