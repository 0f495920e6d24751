import CallLight.Text.Blank
import CallLight.Text.Identifier
import CallLight.Text.Table

/-!
# Words of HCL

The text of a settings file, cut into words. Plain code, quoted strings and heredocs are read in
different ways and nest: a string holds `${ … }` sequences, whose code holds strings again. The
reader therefore keeps a stack of modes. A file with anything that is no word, outside of a comment,
is refused as a whole.
-/

namespace CallLight.Hcl

/-- Punctuation and operators. -/
inductive Mark where
  | openBrace | closeBrace | openBracket | closeBracket | openParen | closeParen
  | plus | minus | star | slash | percent
  | assign | equal | notEqual | less | lessEqual | greater | greaterEqual
  | and | or | bang
  | dot | comma | ellipsis | arrow | question | colon | doubleColon
deriving DecidableEq, Repr

/-- A word. Strings and heredocs come as an opening, pieces of literal text with their escapes
resolved, template sequences, and a closing. `trims` says whether a sequence eats the blanks at that
side. -/
inductive Token where
  | name (text : String)
  | number (text : String)
  | newline
  | mark (mark : Mark)
  | openQuote
  | closeQuote
  | openHeredoc (indented : Bool)
  | closeHeredoc
  | literal (text : String)
  | interpolation (trims : Bool)
  | control (trims : Bool)
  | sequenceEnd (trims : Bool)
deriving DecidableEq, Repr

/-- The characters of a file; a byte that is part of no character is `none`. -/
abbrev Source := List (Option Char)

/-- The characters of a text, without a byte order mark at the front. -/
def Source.ofText (t : Text) : Source :=
  let cs := t.runes.map fun r => if r.isInvalid then none else some (Char.ofNat r.code)
  match cs with
  | some '\ufeff' :: cs => cs
  | cs => cs

/-- How the text at hand is to be read. -/
inductive Mode where
  /-- Code, with the number of braces it has open. -/
  | code (depth : Nat)
  | quoted
  /-- A heredoc. `lineStart` says whether an end marker may come next. -/
  | heredoc (marker : List Char) (lineStart : Bool)
deriving Repr

/-- Reads a name. -/
def nameAt? : Source → Option (List Char × Source)
  | some c :: rest =>
    if c == '_' || Text.isNameStartCode c.toNat then
      let tail := rest.takeWhile fun
        | some d => d == '-' || Text.isNameContinueCode d.toNat
        | none => false
      some (c :: tail.filterMap id, rest.drop tail.length)
    else none
  | _ => none

/-- Reads on in a number: digits, points and exponents. -/
def numberTail : Source → List Char
  | some e :: some s :: some d :: rest =>
    if e.isDigit || e == '.' then e :: numberTail (some s :: some d :: rest)
    else if e != 'e' && e != 'E' then []
    else if s.isDigit then e :: s :: numberTail (some d :: rest)
    else if (s == '+' || s == '-') && d.isDigit then e :: s :: d :: numberTail rest
    else []
  | some e :: some s :: rest =>
    if e.isDigit || e == '.' then e :: numberTail (some s :: rest)
    else if (e == 'e' || e == 'E') && s.isDigit then e :: s :: numberTail rest
    else []
  | some e :: rest => if e.isDigit || e == '.' then e :: numberTail rest else []
  | _ => []
termination_by s => s.length

/-- Drops the points at the end of a number: they are words of their own. -/
def withoutPoints (cs : List Char) : List Char := (cs.reverse.dropWhile (· == '.')).reverse

/-- The line break at the front: its text and what follows. -/
def lineBreak? : Source → Option (List Char × Source)
  | some '\n' :: rest => some (['\n'], rest)
  | some '\r' :: some '\n' :: rest => some (['\r', '\n'], rest)
  | _ => none

/-- What follows a line comment, and whether the comment ended with a line break. -/
def afterLineComment : Source → Bool × Source
  | [] => (false, [])
  | some '\n' :: rest => (true, rest)
  | _ :: rest => afterLineComment rest

/-- What follows the end of a block comment. -/
def afterBlockComment? : Source → Option Source
  | some '*' :: some '/' :: rest => some rest
  | _ :: rest => afterBlockComment? rest
  | [] => none

/-- Takes hexadecimal digits off the front, exactly `n` of them. -/
def hexDigits? : Nat → Source → Option (List Char × Source)
  | 0, rest => some ([], rest)
  | n + 1, some c :: rest =>
    if c.isDigit || ('a' ≤ c && c ≤ 'f') || ('A' ≤ c && c ≤ 'F') then
      (hexDigits? n rest).map fun (cs, rest) => (c :: cs, rest)
    else none
  | _, _ => none

/-- The character of an escape given by its code point. -/
def codeEscape? (n : Nat) (rest : Source) : Option (Char × Source) :=
  (hexDigits? n rest).bind fun (cs, rest) =>
    let code := Text.hexNumber cs
    if code.isValidChar then some (Char.ofNat code, rest) else none

/-- The character that an escape stands for; `rest` is what follows the backslash. -/
def escape? : Source → Option (Char × Source)
  | some 'n' :: rest => some ('\n', rest)
  | some 'r' :: rest => some ('\r', rest)
  | some 't' :: rest => some ('\t', rest)
  | some '"' :: rest => some ('"', rest)
  | some '\\' :: rest => some ('\\', rest)
  | some 'u' :: rest => codeEscape? 4 rest
  | some 'U' :: rest => codeEscape? 8 rest
  | _ => none

/-- Whether a template sequence starts here. -/
def startsSequence : Source → Bool
  | some '$' :: some '\x7b' :: _ => true
  | some '%' :: some '\x7b' :: _ => true
  | _ => false

/-- Reads the literal text of a quoted string up to its end or to a template sequence. -/
def quotedRun : (fuel : Nat) → Source → Option (List Char × Source)
  | 0, _ => none
  | fuel + 1, s =>
    let more (c : List Char) (rest : Source) :=
      (quotedRun fuel rest).map fun (cs, rest) => (c ++ cs, rest)
    if startsSequence s then some ([], s)
    else
      match s with
      | some '"' :: _ => some ([], s)
      | some '$' :: some '$' :: some '\x7b' :: rest => more ['$', '\x7b'] rest
      | some '%' :: some '%' :: some '\x7b' :: rest => more ['%', '\x7b'] rest
      | some '\\' :: rest => (escape? rest).bind fun (c, rest) => more [c] rest
      | some c :: rest => if c == '\n' || c == '\r' then none else more [c] rest
      | _ => none

/-- Reads the literal text of a heredoc up to the end of the line or to a template sequence. -/
def heredocRun : (fuel : Nat) → Source → Option (List Char × Source)
  | 0, _ => none
  | fuel + 1, s =>
    let more (c : List Char) (rest : Source) :=
      (heredocRun fuel rest).map fun (cs, rest) => (c ++ cs, rest)
    if startsSequence s || (lineBreak? s).isSome then some ([], s)
    else
      match s with
      | some '$' :: some '$' :: some '\x7b' :: rest => more ['$', '\x7b'] rest
      | some '%' :: some '%' :: some '\x7b' :: rest => more ['%', '\x7b'] rest
      | some c :: rest => if c == '\r' then none else more [c] rest
      | _ => none

/-- Characters without the white space at both ends. -/
def trimBlanks (cs : List Char) : List Char :=
  let blank (c : Char) := Text.isWhiteSpace c.toNat
  ((cs.dropWhile blank).reverse.dropWhile blank).reverse

/-- The start of a heredoc behind its two less-than signs: the marker, whether the text is indented,
and what follows the line. -/
def heredocStart? (s : Source) : Option (Bool × List Char × Source) :=
  let (indented, s) := match s with
    | some '-' :: s => (true, s)
    | s => (false, s)
  (nameAt? s).bind fun (marker, rest) =>
    (lineBreak? rest).map fun (_, rest) => (indented, marker, rest)

/-- The punctuation mark at the front, the longest one that fits. -/
def markAt? : Source → Option (Mark × Source)
  | some '.' :: some '.' :: some '.' :: rest => some (.ellipsis, rest)
  | some '=' :: some '>' :: rest => some (.arrow, rest)
  | some '=' :: some '=' :: rest => some (.equal, rest)
  | some '!' :: some '=' :: rest => some (.notEqual, rest)
  | some '>' :: some '=' :: rest => some (.greaterEqual, rest)
  | some '<' :: some '=' :: rest => some (.lessEqual, rest)
  | some '&' :: some '&' :: rest => some (.and, rest)
  | some '|' :: some '|' :: rest => some (.or, rest)
  | some ':' :: some ':' :: rest => some (.doubleColon, rest)
  | some '=' :: rest => some (.assign, rest)
  | some '>' :: rest => some (.greater, rest)
  | some '<' :: rest => some (.less, rest)
  | some '!' :: rest => some (.bang, rest)
  | some '(' :: rest => some (.openParen, rest)
  | some ')' :: rest => some (.closeParen, rest)
  | some '[' :: rest => some (.openBracket, rest)
  | some ']' :: rest => some (.closeBracket, rest)
  | some ',' :: rest => some (.comma, rest)
  | some '.' :: rest => some (.dot, rest)
  | some '?' :: rest => some (.question, rest)
  | some ':' :: rest => some (.colon, rest)
  | some '+' :: rest => some (.plus, rest)
  | some '-' :: rest => some (.minus, rest)
  | some '*' :: rest => some (.star, rest)
  | some '/' :: rest => some (.slash, rest)
  | some '%' :: rest => some (.percent, rest)
  | _ => none

/-- What one step of the reader gives: words, the modes to go on with, and the text that is left. -/
abbrev Step := Option (List Token × List Mode × Source)

/-- Reads the start of a template sequence, which opens a level of code. -/
def readSequence (modes : List Mode) : Source → Step
  | some c :: some '\x7b' :: some '~' :: rest =>
    some ([if c == '$' then .interpolation true else .control true], .code 0 :: modes, rest)
  | some c :: some '\x7b' :: rest =>
    some ([if c == '$' then .interpolation false else .control false], .code 0 :: modes, rest)
  | _ => none

/-- One step in code. -/
def readCode (depth : Nat) (outer : List Mode) (s : Source) : Step :=
  let here := Mode.code depth :: outer
  match s with
  | some ' ' :: rest => some ([], here, rest)
  | some '\t' :: rest => some ([], here, rest)
  | some '\n' :: rest => some ([.newline], here, rest)
  | some '\r' :: some '\n' :: rest => some ([.newline], here, rest)
  | some '#' :: rest =>
    let (broken, rest) := afterLineComment rest
    some (if broken then [.newline] else [], here, rest)
  | some '/' :: some '/' :: rest =>
    let (broken, rest) := afterLineComment rest
    some (if broken then [.newline] else [], here, rest)
  | some '/' :: some '*' :: rest => (afterBlockComment? rest).map fun rest => ([], here, rest)
  | some '\x7b' :: rest => some ([.mark .openBrace], .code (depth + 1) :: outer, rest)
  | some '\x7d' :: rest =>
    match depth, outer with
    | 0, [] => none
    | 0, _ => some ([.sequenceEnd false], outer, rest)
    | n + 1, _ => some ([.mark .closeBrace], .code n :: outer, rest)
  | some '~' :: some '\x7d' :: rest =>
    if depth = 0 && !outer.isEmpty then some ([.sequenceEnd true], outer, rest) else none
  | some '"' :: rest => some ([.openQuote], .quoted :: here, rest)
  | some '<' :: some '<' :: rest =>
    (heredocStart? rest).map fun (indented, marker, rest) =>
      ([.openHeredoc indented], .heredoc marker true :: here, rest)
  | some c :: rest =>
    if c.isDigit then
      let number := c :: withoutPoints (numberTail rest)
      some ([.number (String.ofList number)], here, s.drop number.length)
    else
      match nameAt? s with
      | some (name, rest) => some ([.name (String.ofList name)], here, rest)
      | none => (markAt? s).map fun (mark, rest) => ([.mark mark], here, rest)
  | _ => none

/-- One step in a quoted string. -/
def readQuoted (outer : List Mode) (s : Source) : Step :=
  if startsSequence s then readSequence (.quoted :: outer) s
  else
    match s with
    | some '"' :: rest => some ([.closeQuote], outer, rest)
    | s =>
      (quotedRun (s.length + 1) s).map fun (cs, rest) =>
        ([.literal (String.ofList cs)], .quoted :: outer, rest)

/-- One step in a heredoc. It ends with a line that holds nothing but its marker. -/
def readHeredoc (marker : List Char) (lineStart : Bool) (outer : List Mode) (s : Source) : Step :=
  if startsSequence s then readSequence (.heredoc marker lineStart :: outer) s
  else
    (heredocRun (s.length + 1) s).map fun (cs, rest) =>
      match lineBreak? rest with
      | none => ([.literal (String.ofList cs)], .heredoc marker false :: outer, rest)
      | some (eol, rest) =>
        if lineStart && trimBlanks cs == marker then ([.closeHeredoc, .newline], outer, rest)
        else ([.literal (String.ofList (cs ++ eol))], .heredoc marker true :: outer, rest)

/-- One step of the reader. -/
def read (modes : List Mode) (s : Source) : Step :=
  match modes with
  | [] => none
  | .code depth :: outer => readCode depth outer s
  | .quoted :: outer => readQuoted outer s
  | .heredoc marker lineStart :: outer => readHeredoc marker lineStart outer s

/-- Reads to the end, which has to be in code that belongs to no string. -/
def readAll : (fuel : Nat) → List Mode → Source → Option (List Token)
  | 0, _, _ => none
  | _ + 1, modes, [] =>
    match modes with
    | [.code _] => some []
    | _ => none
  | fuel + 1, modes, s =>
    (read modes s).bind fun (words, modes, rest) =>
      (readAll fuel modes rest).map fun more => words ++ more

/-- The words of a file. Each step takes at least one character, which bounds their number. -/
def tokens (t : Text) : Option (List Token) :=
  let s := Source.ofText t
  readAll (s.length + 1) [.code 0] s

end CallLight.Hcl
