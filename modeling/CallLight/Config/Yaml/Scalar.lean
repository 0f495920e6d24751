import CallLight.Config.Yaml.Cursor
import CallLight.Text.Table

/-!
# Scalars of YAML

Plain, quoted and block scalars. Line breaks inside of a scalar are folded: a single one becomes a
blank, and of several the first one goes.
-/

namespace CallLight.Yaml

/-- Blanks and line breaks that were passed but not written yet. -/
structure Gap where
  /-- The blanks, if there was no line break. -/
  blanks : List Char
  /-- The first line break. -/
  first : List Char
  /-- The line breaks after the first one. -/
  more : List Char
  /-- Whether there was a line break. -/
  broken : Bool

namespace Gap

def none : Gap := ⟨[], [], [], false⟩

/-- The text that a gap stands for. -/
def fold (g : Gap) : List Char :=
  if !g.broken then g.blanks
  else if g.first == ['\n'] then (if g.more.isEmpty then [' '] else g.more)
  else g.first ++ g.more

/-- Passes blanks and line breaks. `allowed` says whether a blank may stand where it does; if not,
the scalar is malformed. -/
def read (allowed : Gap → Cursor → Bool) : (fuel : Nat) → Gap → Cursor → Option (Gap × Cursor)
  | 0, g, c => some (g, c)
  | fuel + 1, g, c =>
    if c.atBlank then
      if !allowed g c then Option.none
      else
        let g := if g.broken then g else { g with blanks := g.blanks ++ c.rest.take 1 }
        read allowed fuel g c.skip
    else if c.atBreak then
      let (text, c) := c.breakLine
      if g.broken then read allowed fuel { g with more := g.more ++ text } c
      else read allowed fuel { g with blanks := [], first := text, broken := true } c
    else some (g, c)

end Gap

/-! ## Quoted scalars -/

/-- The character of an escape of a fixed meaning. -/
def plainEscape? : Char → Option Char
  | '0' => some '\x00'
  | 'a' => some '\x07'
  | 'b' => some '\x08'
  | 't' => some '\t'
  | '\t' => some '\t'
  | 'n' => some '\n'
  | 'v' => some '\x0b'
  | 'f' => some '\x0c'
  | 'r' => some '\r'
  | 'e' => some '\x1b'
  | ' ' => some ' '
  | '"' => some '"'
  | '\'' => some '\''
  | '\\' => some '\\'
  | 'N' => some '\x85'
  | '_' => some '\xa0'
  | 'L' => some '\u2028'
  | 'P' => some '\u2029'
  | _ => none

/-- The number of hexadecimal digits of an escape by code point. -/
def codeEscapeLength? : Char → Option Nat
  | 'x' => some 2
  | 'u' => some 4
  | 'U' => some 8
  | _ => none

def isHexDigit (c : Char) : Bool := c.isDigit || ('a' ≤ c && c ≤ 'f') || ('A' ≤ c && c ≤ 'F')

/-- Reads an escape; the cursor is at the backslash. -/
def escape? (c : Cursor) : Option (Char × Cursor) :=
  (c.rest[1]?).bind fun kind =>
    match plainEscape? kind with
    | some d => some (d, c.skipN 2)
    | none =>
      (codeEscapeLength? kind).bind fun n =>
        let digits := (c.rest.drop 2).take n
        let code := Text.hexNumber digits
        if digits.length == n && digits.all isHexDigit && code.isValidChar then
          some (Char.ofNat code, c.skipN (2 + n))
        else none

/-- The visible characters of a quoted scalar, up to a blank or to its end. The flag tells that they
ended with an escaped line break. -/
def quotedWord (single : Bool) : (fuel : Nat) → Cursor → Option (List Char × Bool × Cursor)
  | 0, _ => none
  | fuel + 1, c =>
    let more (d : List Char) (c : Cursor) :=
      (quotedWord single fuel c).map fun (cs, escaped, c) => (d ++ cs, escaped, c)
    match c.rest with
    | [] => some ([], false, c)
    | d :: rest =>
      if isBlank d || isBreak d then some ([], false, c)
      else if single then
        if d == '\'' then
          if rest.head? == some '\'' then more ['\''] (c.skipN 2) else some ([], false, c)
        else more [d] c.skip
      else if d == '"' then some ([], false, c)
      else if d == '\\' then
        if c.test 1 isBreak then some ([], true, c.skip.skipLine)
        else (escape? c).bind fun (e, c) => more [e] c
      else more [d] c.skip

/-- The text of a quoted scalar behind its opening quote. -/
def quotedText (single : Bool) : (fuel : Nat) → Cursor → Option (List Char × Cursor)
  | 0, _ => none
  | fuel + 1, c =>
    if c.atDocumentMarker || c.atEnd then none
    else
      (quotedWord single (c.rest.length + 1) c).bind fun (word, escaped, c) =>
        if c.isAt (if single then '\'' else '"') then some (word, c.skip)
        else
          let gap := { Gap.none with broken := escaped }
          (Gap.read (fun _ _ => true) (c.rest.length + 1) gap c).bind fun (gap, c) =>
            (quotedText single fuel c).map fun (cs, c) => (word ++ gap.fold ++ cs, c)

/-- A quoted scalar; the cursor is at its opening quote. -/
def quotedScalar (single : Bool) (c : Cursor) : Option (List Char × Cursor) :=
  quotedText single (c.rest.length + 1) c.skip

/-! ## Plain scalars -/

/-- Whether a plain scalar ends before the character at hand. -/
def endsPlain (inFlow : Bool) (c : Cursor) : Bool :=
  c.blankAhead 0 || (c.isAt ':' && c.blankAhead 1) ||
    (inFlow && c.test 0 fun d =>
      d == ',' || d == '?' || d == '[' || d == ']' || d == '\x7b' || d == '\x7d')

/-- The visible characters of a plain scalar. -/
def plainWord (inFlow : Bool) : (fuel : Nat) → Cursor → List Char × Cursor
  | 0, c => ([], c)
  | fuel + 1, c =>
    if endsPlain inFlow c then ([], c)
    else
      let (cs, c') := plainWord inFlow fuel c.skip
      (c.rest.take 1 ++ cs, c')

/-- The text of a plain scalar. `gap` is what was passed since the last word; the flag tells whether
the scalar was followed by a line break. -/
def plainText (inFlow : Bool) (indent : Nat) :
    (fuel : Nat) → Gap → Cursor → Option (List Char × Bool × Cursor)
  | 0, _, _ => none
  | fuel + 1, gap, c =>
    if c.atDocumentMarker || c.isAt '#' then some ([], gap.broken, c)
    else
      let (word, c) := plainWord inFlow (c.rest.length + 1) c
      let text := if word.isEmpty then [] else gap.fold ++ word
      let gap := if word.isEmpty then gap else .none
      if !c.atBlank && !c.atBreak then some (text, gap.broken, c)
      else
        let allowed (g : Gap) (c : Cursor) := !(g.broken && c.column < indent && c.isAt '\t')
        (gap.read allowed (c.rest.length + 1) c).bind fun (gap, c) =>
          if !inFlow && c.column < indent then some (text, gap.broken, c)
          else
            (plainText inFlow indent fuel gap c).map fun (cs, broken, c) => (text ++ cs, broken, c)

/-- A plain scalar. -/
def plainScalar (inFlow : Bool) (indent : Nat) (c : Cursor) : Option (List Char × Bool × Cursor) :=
  plainText inFlow indent (c.rest.length + 1) .none c

/-! ## Block scalars -/

/-- What becomes of the line breaks at the end of a block scalar. -/
inductive Chomping where
  | strip | clip | keep
deriving DecidableEq

/-- Passes the chomping sign. -/
def chomping? (c : Cursor) : Option (Chomping × Cursor) :=
  if c.isAt '+' then some (.keep, c.skip)
  else if c.isAt '-' then some (.strip, c.skip)
  else none

/-- Passes the indentation digit. Zero is no indentation. -/
def indentDigit? (c : Cursor) : Option (Option (Nat × Cursor)) :=
  match c.rest with
  | d :: _ =>
    if d == '0' then none
    else if d.isDigit then some (some (d.toNat - 48, c.skip))
    else some none
  | [] => some none

/-- The header of a block scalar: chomping and indentation, in either order. -/
def blockHeader (c : Cursor) : Option (Chomping × Nat × Cursor) :=
  match chomping? c with
  | some (chomping, c) => (indentDigit? c).map fun
    | some (n, c) => (chomping, n, c)
    | none => (chomping, 0, c)
  | none => (indentDigit? c).map fun
    | some (n, c) =>
      match chomping? c with
      | some (chomping, c) => (chomping, n, c)
      | none => (.clip, n, c)
    | none => (.clip, 0, c)

/-- Passes empty lines and the indentation of the next line. An indentation of zero is not fixed
yet; the result is the widest one that was seen. -/
def blockBreaks (indent : Nat) : (fuel widest : Nat) → Cursor → Option (List Char × Nat × Cursor)
  | 0, _, _ => none
  | fuel + 1, widest, c =>
    let room := indent - c.column
    let spaces := (c.rest.takeWhile (· == ' ')).length
    let c := c.skipN (if indent = 0 then spaces else min spaces room)
    let widest := max widest c.column
    if (indent = 0 || c.column < indent) && c.isAt '\t' then none
    else if !c.atBreak then some ([], widest, c)
    else
      let (text, c) := c.breakLine
      (blockBreaks indent fuel widest c).map fun (cs, widest, c) => (text ++ cs, widest, c)

/-- The lines of a block scalar. `first` is the line break before the line at hand and `more` the
empty lines behind it; `leadingBlank` says whether the line before started with a blank. The result
ends with the line breaks that were left over. -/
def blockLines (literal : Bool) (indent : Nat) :
    (fuel : Nat) → (leadingBlank : Bool) → (first more : List Char) → Cursor →
      Option (List Char × List Char × List Char × Cursor)
  | 0, _, _, _, _ => none
  | fuel + 1, leadingBlank, first, more, c =>
    if c.column != indent || c.atEnd then some ([], first, more, c)
    else
      let blank := c.atBlank
      let joint :=
        if !literal && !leadingBlank && !blank && first == ['\n'] then
          (if more.isEmpty then [' '] else [])
        else first
      let line := c.rest.takeWhile fun d => !isBreak d
      let (first, c) := (c.skipN line.length).breakLine
      (blockBreaks indent (c.rest.length + 1) 0 c).bind fun (breaks, _, c) =>
        (blockLines literal indent fuel blank first breaks c).map fun (cs, rest) =>
          (joint ++ more ++ line ++ cs, rest)

/-- A block scalar; the cursor is at its sign. `outer` is the indentation around it, -1 if there is
none. -/
def blockScalar (literal : Bool) (outer : Int) (c : Cursor) : Option (List Char × Cursor) := do
  let (chomping, increment, c) ← blockHeader c.skip
  let c := c.skipBlanks
  let c := if c.isAt '#' then c.skipToBreak else c
  if !c.lineOver then none
  else
    let c := c.skipLine
    let given := if increment = 0 then 0 else increment + outer.toNat
    let (breaks, widest, c) ← blockBreaks given (c.rest.length + 1) 0 c
    let indent := if given = 0 then max (max widest (outer + 1).toNat) 1 else given
    let (text, first, more, c) ← blockLines literal indent (c.rest.length + 2) false [] breaks c
    let tail := match chomping with
      | .strip => []
      | .clip => first
      | .keep => first ++ more
    return (text ++ tail, c)

end CallLight.Yaml
