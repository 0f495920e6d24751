import CallLight.Text.Basic

/-!
# Reading positions

The characters of a YAML stream and a place in it. A stream is UTF-8, or UTF-16 if a byte order mark
says so, and may not hold control characters.
-/

namespace CallLight.Yaml

/-! ## Characters of a stream -/

/-- Whether a character may stand in a stream. -/
def isAllowed (code : Nat) : Bool :=
  code == 0x09 || code == 0x0A || code == 0x0D || (0x20 ≤ code && code ≤ 0x7E) || code == 0x85 ||
    (0xA0 ≤ code && code ≤ 0xD7FF) || (0xE000 ≤ code && code ≤ 0xFFFD) ||
    (0x10000 ≤ code && code ≤ 0x10FFFF)

/-- The code units of UTF-16 text. -/
def codeUnits (bigEndian : Bool) : Text → Option (List Nat)
  | [] => some []
  | [_] => none
  | a :: b :: rest =>
    let unit := if bigEndian then a.toNat * 256 + b.toNat else b.toNat * 256 + a.toNat
    (codeUnits bigEndian rest).map fun us => unit :: us

/-- The characters of UTF-16 code units. -/
def ofCodeUnits : List Nat → Option (List Nat)
  | [] => some []
  | u :: rest =>
    if 0xD800 ≤ u && u ≤ 0xDBFF then
      match rest with
      | v :: rest =>
        if 0xDC00 ≤ v && v ≤ 0xDFFF then
          (ofCodeUnits rest).map fun cs => (0x10000 + (u - 0xD800) * 0x400 + (v - 0xDC00)) :: cs
        else none
      | [] => none
    else if 0xDC00 ≤ u && u ≤ 0xDFFF then none
    else (ofCodeUnits rest).map fun cs => u :: cs

/-- The code points of a text in the encoding that its first bytes tell. -/
def decodeText (t : Text) : Option (List Nat) :=
  match t with
  | 0xFF :: 0xFE :: rest => (codeUnits false rest).bind ofCodeUnits
  | 0xFE :: 0xFF :: rest => (codeUnits true rest).bind ofCodeUnits
  | _ =>
    let t := match t with
      | 0xEF :: 0xBB :: 0xBF :: rest => rest
      | t => t
    if Text.isValid t then some ((Text.runes t).map (·.code)) else none

/-- The characters of a stream, if they may all stand in one. -/
def streamChars (t : Text) : Option (List Char) :=
  (decodeText t).bind fun codes =>
    if codes.all isAllowed then some (codes.map Char.ofNat) else none

/-! ## Classes of characters -/

def isBlank (c : Char) : Bool := c == ' ' || c == '\t'

def isBreak (c : Char) : Bool :=
  c == '\n' || c == '\r' || c == '\x85' || c == '\u2028' || c == '\u2029'

/-- Letters, digits, the underscore and the hyphen. -/
def isWordChar (c : Char) : Bool :=
  c.isDigit || ('a' ≤ c && c ≤ 'z') || ('A' ≤ c && c ≤ 'Z') || c == '_' || c == '-'

/-! ## The place in the stream -/

/-- A place in the stream: what is left, the number of characters before it, and its line and
column. -/
structure Cursor where
  rest : List Char
  index : Nat
  line : Nat
  column : Nat
  /-- Nothing but blanks came since the last line break. -/
  fresh : Bool
deriving Repr

namespace Cursor

def start (cs : List Char) : Cursor := ⟨cs, 0, 0, 0, false⟩

def atEnd (c : Cursor) : Bool := c.rest.isEmpty

/-- Whether the character `n` places ahead fulfils a condition; the end of the stream does not. -/
def test (c : Cursor) (n : Nat) (p : Char → Bool) : Bool := (c.rest[n]?).any p

def isAt (c : Cursor) (d : Char) : Bool := c.test 0 (· == d)

def atBlank (c : Cursor) : Bool := c.test 0 isBlank

def atBreak (c : Cursor) : Bool := c.test 0 isBreak

/-- Whether a blank, a line break or the end of the stream is `n` places ahead. -/
def blankAhead (c : Cursor) (n : Nat) : Bool :=
  match c.rest[n]? with
  | none => true
  | some d => isBlank d || isBreak d

/-- Whether the line is over. -/
def lineOver (c : Cursor) : Bool := c.atEnd || c.atBreak

/-- Passes a character. -/
def skip (c : Cursor) : Cursor :=
  match c.rest with
  | [] => c
  | d :: rest => ⟨rest, c.index + 1, c.line, c.column + 1, c.fresh && isBlank d⟩

/-- Passes some characters. -/
def skipN : Nat → Cursor → Cursor
  | 0, c => c
  | n + 1, c => skipN n c.skip

/-- Passes a line break; the text it stands for comes with the new place. -/
def breakLine (c : Cursor) : List Char × Cursor :=
  match c.rest with
  | '\r' :: '\n' :: rest => (['\n'], ⟨rest, c.index + 2, c.line + 1, 0, true⟩)
  | d :: rest =>
    if d == '\u2028' || d == '\u2029' then ([d], ⟨rest, c.index + 1, c.line + 1, 0, true⟩)
    else if isBreak d then (['\n'], ⟨rest, c.index + 1, c.line + 1, 0, true⟩)
    else ([], c)
  | [] => ([], c)

def skipLine (c : Cursor) : Cursor := c.breakLine.2

/-- Passes characters as long as they fulfil a condition. -/
def skipWhile (p : Char → Bool) (c : Cursor) : Cursor := skipN (c.rest.takeWhile p).length c

def skipBlanks (c : Cursor) : Cursor := c.skipWhile isBlank

/-- Passes the rest of the line. -/
def skipToBreak (c : Cursor) : Cursor := c.skipWhile fun d => !isBreak d

/-- Whether a document marker stands here: three times the same character, at the start of a
line. -/
def atMarker (c : Cursor) (d : Char) : Bool :=
  c.column == 0 && c.test 0 (· == d) && c.test 1 (· == d) && c.test 2 (· == d) && c.blankAhead 3

def atDocumentMarker (c : Cursor) : Bool := c.atMarker '-' || c.atMarker '.'

end Cursor

end CallLight.Yaml
