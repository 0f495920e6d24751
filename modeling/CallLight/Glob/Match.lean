import CallLight.Glob.Syntax

/-!
# Matching paths against patterns

A pattern is read left to right. At a mismatch the last `*` takes one more character of its segment;
when it cannot, the last `**` takes one more segment. Braces try their alternatives in turn, each
put in place of the braces.
-/

namespace CallLight.Glob

/-- A pattern that turned out to be malformed. -/
inductive BadPattern where
  | bad
deriving DecidableEq, Repr

/-- The character at the front of a text; U+FFFD of width zero at its end. -/
def front : Text → Rune
  | [] => ⟨0xFFFD, 0⟩
  | a :: rest => Text.decode a rest

/-- Looks for a character in a class. `last` is the character that a dash would start a range from,
U+10FFFF when there is none. The second result is where the search stopped. -/
def inClass (fuel : Nat) (code last : Nat) (t : Text) : Bool × Text :=
  match fuel, t with
  | 0, t => (false, t)
  | _, [] => (false, [])
  | fuel + 1, t@(b :: _) =>
    if b == 93 then (false, t)
    else
      let r := front t
      let rest := t.drop r.width
      if last < 0x10FFFF && r.code == 45 && !rest.isEmpty && rest.head? != some 93 then
        let rest := if rest.head? == some 92 then rest.drop 1 else rest
        let high := front rest
        let rest := rest.drop high.width
        if last ≤ code && code ≤ high.code then (true, rest) else inClass fuel code 0x10FFFF rest
      else
        let escaped := if r.code == 92 then front rest else r
        let rest := if r.code == 92 then rest.drop escaped.width else rest
        if escaped.code == code then (true, rest) else inClass fuel code escaped.code rest

/-- Whether a pattern can stand for nothing. `/**` can: the directory itself is below itself. -/
def matchesEmpty (fuel : Nat) (pattern : Text) : Except BadPattern Bool :=
  match fuel with
  | 0 => .ok false
  | fuel + 1 =>
    if [[], [42], [42, 42], [47, 42, 42], [42, 42, 47], [47, 42, 42, 47]].contains pattern then
      .ok true
    else
      match pattern with
      | 123 :: rest =>
        match closingBrace? 0 rest with
        | none => .error .bad
        | some closing =>
          let after := rest.drop (closing + 1)
          (alternatives 0 [] (rest.take closing)).foldl (fun found alternative =>
            match found with
            | .ok false => matchesEmpty fuel (alternative ++ after)
            | found => found) (.ok false)
      | _ => if isValid pattern then .ok false else .error .bad

/-- Where to resume after a mismatch: offsets into the pattern and the path. -/
structure Resume where
  pattern : Nat
  path : Nat

/-- A partial match: what is left to read of the pattern and of the path starts at the two
offsets. -/
structure State where
  pattern : Text
  path : Text
  patternPos : Nat
  pos : Nat
  segmentStart : Bool
  star : Option Resume
  doubleStar : Option Resume

/-- What reading one element of the pattern comes to. -/
inductive Outcome where
  | matched (next : State)
  | mismatch (state : State)
  | choice (options : List Text)
  | done (answer : Except BadPattern Bool)

namespace State

/-- The character of the path to be matched next. -/
def next (s : State) : Rune := front (s.path.drop s.pos)

/-- Matches one character literally; `patternPos` is its offset in the pattern. -/
def literal (s : State) (patternPos : Nat) : Outcome :=
  let r := front (s.pattern.drop patternPos)
  if r.code == s.next.code then
    .matched { s with patternPos := patternPos + r.width, pos := s.pos + s.next.width,
                      segmentStart := r.code == 47 }
  else if 0 < patternPos && s.pattern[patternPos - 1]? == some 92 then
    .mismatch { s with patternPos := patternPos - 1 }
  else .mismatch { s with patternPos := patternPos }

/-- Matches one character against a class; `content` follows the opening bracket. -/
def inBrackets (s : State) (content : Text) : Outcome :=
  match classContent? content with
  | none => .done (.error .bad)
  | some (negated, content) =>
    let (found, rest) := inClass content.length s.next.code 0x10FFFF content
    if found == negated then
      if rest.isEmpty then .done (.error .bad)
      else .mismatch { s with patternPos := s.pattern.length - rest.length, segmentStart := false }
    else
      match afterClass? rest with
      | none => .done (.error .bad)
      | some rest =>
        .matched { s with patternPos := s.pattern.length - rest.length, pos := s.pos + s.next.width,
                          segmentStart := false }

/-- Reads a star. Two stars that fill a segment stand for any number of segments. -/
def stars (s : State) (rest : Text) : Outcome :=
  let single (patternPos : Nat) : Outcome :=
    .matched { s with patternPos, segmentStart := false, star := some ⟨patternPos, s.pos⟩ }
  match rest with
  | 42 :: rest =>
    if s.segmentStart then
      match rest with
      | [] => .done (.ok true)
      | 47 :: _ =>
        .matched { s with
          patternPos := s.patternPos + 3
          doubleStar := some ⟨s.patternPos + 3, s.pos⟩
          star := none }
      | _ => single (s.patternPos + 2)
    else single (s.patternPos + 2)
  | _ => single (s.patternPos + 1)

/-- Reads one element of the pattern. -/
def read (s : State) : Outcome :=
  match s.pattern.drop s.patternPos with
  | [] => .mismatch s
  | 42 :: rest => s.stars rest
  | 63 :: _ =>
    if s.next.code == 47 then .mismatch { s with segmentStart := false }
    else
      .matched { s with
        patternPos := s.patternPos + 1, pos := s.pos + s.next.width, segmentStart := false }
  | 91 :: content => s.inBrackets content
  | 123 :: rest =>
    match closingBrace? 0 rest with
    | none => .done (.error .bad)
    | some closing =>
      .choice ((alternatives 0 [] (rest.take closing)).map fun alternative =>
        s.pattern.take s.patternPos ++ alternative ++ rest.drop (closing + 1))
  | 92 :: rest => if rest.isEmpty then .done (.error .bad) else s.literal (s.patternPos + 1)
  | _ => s.literal s.patternPos

/-- The offset after the next slash of a path. -/
def afterSlash? (path : Text) (pos : Nat) : Option Nat :=
  let segment := (path.drop pos).takeWhile (· != 47)
  if pos + segment.length < path.length then some (pos + segment.length + 1) else none

/-- Gives the last star that can take it one more character or segment. -/
def resume (s : State) : Except BadPattern (Option State) :=
  let segments : Except BadPattern (Option State) :=
    match s.doubleStar.bind fun r =>
        (afterSlash? s.path r.path).map fun pos => (r.pattern, pos) with
    | some (patternPos, pos) =>
      .ok (some { s with
        patternPos, pos, doubleStar := some ⟨patternPos, pos⟩, segmentStart := true })
    | none =>
      if isValid (s.pattern.drop s.patternPos) then .ok none else .error .bad
  match s.star with
  | none => segments
  | some r =>
    let c := front (s.path.drop r.path)
    if c.code == 47 then segments
    else
      let pos := r.path + c.width
      .ok (some { s with
        patternPos := r.pattern, pos, star := some ⟨r.pattern, pos⟩, segmentStart := false })

/-- Runs a match to its end. -/
def run (fuel : Nat) (s : State) : Except BadPattern Bool :=
  match fuel with
  | 0 => .ok false
  | fuel + 1 =>
    if s.path.length ≤ s.pos then matchesEmpty (s.pattern.length + 1) (s.pattern.drop s.patternPos)
    else
      match s.read with
      | .matched next => run fuel next
      | .done answer => answer
      | .mismatch s =>
        match s.resume with
        | .error e => .error e
        | .ok none => .ok false
        | .ok (some s) => run fuel s
      | .choice options =>
        options.foldl (fun found pattern =>
          match found with
          | .ok false => run fuel { s with pattern, segmentStart := true }
          | found => found) (.ok false)

end State

/-- Enough steps for any match: each brace opens a new round, and a round moves the resume points at
most once for every pair of offsets of the path. -/
def stepBound (pattern path : Text) : Nat :=
  (pattern.length + 2) * (pattern.length + 2) * (path.length + 2) * (path.length + 2)

/-- Matches a path against a pattern. -/
def match? (pattern path : Text) : Except BadPattern Bool :=
  State.run (stepBound pattern path) ⟨pattern, path, 0, 0, true, none, none⟩

/-- Whether a path matches a pattern; a malformed pattern matches nothing. -/
def isMatch (pattern path : Text) : Bool :=
  match match? pattern path with
  | .ok found => found
  | .error _ => false

/-! ## Dialects -/

/-- A language of patterns: which of them are well-formed, how a pattern parts into a directory and
the pattern below it, and which paths match. -/
structure Dialect where
  isValid : Text → Bool
  split : Text → Text × Text
  isMatch : (pattern path : Text) → Bool

/-- The patterns described above. -/
def Dialect.standard : Dialect := ⟨Glob.isValid, Glob.split, Glob.isMatch⟩

end CallLight.Glob
