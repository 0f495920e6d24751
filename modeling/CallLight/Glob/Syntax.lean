import CallLight.Text.Basic

/-!
# File patterns

A pattern names paths: `*` stands for anything within a path segment, `**` for any number of
segments, `?` for one character, `[a-z]` for one character of a class and `{a,b}` for either
alternative. A backslash takes the next byte literally.
-/

namespace CallLight.Glob

/-- The position after the closing bracket of a class whose content starts here. -/
def afterClass? : Text → Option Text
  | [] => none
  | 92 :: _ :: rest => afterClass? rest
  | b :: rest => if b == 93 then some rest else if b == 92 then none else afterClass? rest

/-- The content of a class after its opening bracket and an optional sign of negation; `none` when
it is empty. -/
def classContent? (t : Text) : Option (Bool × Text) :=
  let negated := t.head? == some 33 || t.head? == some 94
  let content := if negated then t.drop 1 else t
  match content with
  | [] => none
  | b :: _ => if b == 93 then none else some (negated, content)

theorem length_lt_of_afterClass? {t rest : Text} (h : afterClass? t = some rest) :
    rest.length < t.length := by
  fun_induction afterClass? t with
  | case1 => simp at h
  | case2 _ t ih =>
    have := ih h
    simp only [List.length_cons]
    omega
  | case3 b t _ _ => simp_all
  | case4 => simp at h
  | case5 b t _ _ _ ih =>
    have := ih h
    simp only [List.length_cons]
    omega

theorem length_le_of_classContent? {t content : Text} {negated : Bool}
    (h : classContent? t = some (negated, content)) : content.length ≤ t.length := by
  simp only [classContent?] at h
  split at h
  · simp at h
  · split at h
    · simp at h
    · simp only [Option.some.injEq, Prod.mk.injEq] at h
      rw [← h.2]
      split <;> simp

/-- Whether a pattern is well-formed: every class is closed and not empty, the braces are balanced
from `depth` open ones on, and no backslash ends it. -/
def isValidFrom (depth : Nat) : Text → Bool
  | [] => depth == 0
  | 92 :: rest =>
    match rest with
    | [] => false
    | _ :: rest => isValidFrom depth rest
  | 91 :: rest =>
    match _h : classContent? rest with
    | none => false
    | some (_, content) =>
      match _h' : afterClass? content with
      | none => false
      | some rest => isValidFrom depth rest
  | 123 :: rest => isValidFrom (depth + 1) rest
  | 125 :: rest => if depth == 0 then false else isValidFrom (depth - 1) rest
  | _ :: rest => isValidFrom depth rest
termination_by t => t.length
decreasing_by
  all_goals simp only [List.length_cons]
  all_goals try omega
  have := length_le_of_classContent? _h
  have := length_lt_of_afterClass? _h'
  omega

/-- Whether a pattern is well-formed. -/
def isValid (pattern : Text) : Bool := isValidFrom 0 pattern

/-- The offset of the brace that closes `depth + 1` open ones. -/
def closingBrace? (depth : Nat) : Text → Option Nat
  | [] => none
  | 92 :: _ :: rest => (closingBrace? depth rest).map (· + 2)
  | 123 :: rest => (closingBrace? (depth + 1) rest).map (· + 1)
  | 125 :: rest =>
    match depth with
    | 0 => some 0
    | depth + 1 => (closingBrace? depth rest).map (· + 1)
  | _ :: rest => (closingBrace? depth rest).map (· + 1)

/-- Splits the content of braces at its commas, those in nested braces aside. -/
def alternatives (depth : Int) (current : Text) : Text → List Text
  | [] => [current.reverse]
  | 92 :: b :: rest => alternatives depth (b :: 92 :: current) rest
  | 123 :: rest => alternatives (depth + 1) (123 :: current) rest
  | 125 :: rest => alternatives (depth - 1) (125 :: current) rest
  | b :: rest =>
    if b == 44 && depth == 0 then current.reverse :: alternatives depth [] rest
    else alternatives depth (b :: current) rest

/-- The offset of the last slash before the first special byte. -/
def lastPlainSlash? (i : Nat) (found : Option Nat) : Text → Option Nat
  | [] => found
  | 92 :: rest => lastPlainSlash? (i + 2) found (rest.drop 1)
  | b :: rest =>
    if b == 47 then lastPlainSlash? (i + 1) (some i) rest
    else if b == 42 || b == 63 || b == 91 || b == 123 then found
    else lastPlainSlash? (i + 1) found rest
termination_by t => t.length
decreasing_by
  all_goals simp only [List.length_cons, List.length_drop]
  all_goals omega

/-- Cuts a pattern into a directory without special bytes and the pattern below it. -/
def split (pattern : Text) : Text × Text :=
  match lastPlainSlash? 0 none pattern with
  | none => ([46], pattern)
  | some 0 => ([47], pattern.drop 1)
  | some i => (pattern.take i, pattern.drop (i + 1))

end CallLight.Glob
