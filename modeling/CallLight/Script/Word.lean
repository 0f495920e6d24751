import CallLight.Text.Blank
import CallLight.Cancellation

/-!
# Words of a script

Words are runs of ASCII letters, digits and underscores. Two shapes matter: a declaration, the word
`proc` and a name after it, and a call, a name with an opening parenthesis after it. White space
between the parts may hold line breaks.
-/

namespace CallLight.Script

/-- Letters, digits and the underscore, in ASCII. -/
def isWordByte (b : UInt8) : Bool :=
  (97 ≤ b && b ≤ 122) || (65 ≤ b && b ≤ 90) || (48 ≤ b && b ≤ 57) || b == 95

/-- What a name may start with: a word byte that is no digit. -/
def isNameStart (b : UInt8) : Bool := isWordByte b && !(48 ≤ b && b ≤ 57)

/-- A name found in a text: its offset, its bytes, and where the whole shape around it starts and
stops. -/
structure Occurrence where
  start : Nat
  offset : Nat
  name : Text
  stop : Nat
deriving DecidableEq, Repr

/-- Moves an occurrence `n` bytes to the right. -/
def Occurrence.shift (n : Nat) (o : Occurrence) : Occurrence :=
  ⟨o.start + n, o.offset + n, o.name, o.stop + n⟩

/-- Where the search goes on that has found an occurrence from `pos` on. An empty one must not be
found again. -/
def Occurrence.resume (o : Occurrence) (pos : Nat) : Nat :=
  if o.stop = pos then pos + 1 else o.stop

theorem Occurrence.lt_resume_shift (o : Occurrence) (pos : Nat) :
    pos < (o.shift pos).resume pos := by
  unfold resume shift
  dsimp only
  split <;> omega

/-- The name at the front of a text, if there is one. -/
def nameAt? : Text → Option Text
  | [] => none
  | b :: rest => if isNameStart b then some (b :: rest.takeWhile isWordByte) else none

/-- The keyword that declares a procedure. -/
def keyword : Text := [112, 114, 111, 99]

/-- A declaration at the front of a text: the keyword, white space, a name. -/
def declarationAt? (t : Text) : Option Occurrence := do
  let afterKeyword ← Text.dropLead? keyword t
  let blank := Text.scriptSpace afterKeyword
  if blank = 0 then none
  else
    let name ← nameAt? (afterKeyword.drop blank)
    let offset := keyword.length + blank
    some ⟨0, offset, name, offset + name.length⟩

/-- A call at the front of a text: a name, perhaps white space, an opening parenthesis. -/
def callAt? (t : Text) : Option Occurrence := do
  let name ← nameAt? t
  let afterName := t.drop name.length
  let blank := Text.scriptSpace afterName
  match afterName.drop blank with
  | 40 :: _ => some ⟨0, 0, name, name.length + blank + 1⟩
  | _ => none

/-- The leftmost occurrence of a shape that starts at a word boundary. `inWord` says whether the
byte before the text is a word byte. -/
def findFrom (shape : Text → Option Occurrence) (inWord : Bool) : Text → Option Occurrence
  | [] => none
  | b :: rest =>
    match if inWord then none else shape (b :: rest) with
    | some o => some o
    | none => (findFrom shape (isWordByte b) rest).map (·.shift 1)

/-- The leftmost occurrence of a shape in a text of its own. -/
def find (shape : Text → Option Occurrence) (t : Text) : Option Occurrence := findFrom shape false t

/-- All occurrences of a shape from `pos` on, each search resuming where the last one stopped. Every
search is preceded by a check; `none` means that the work was called off. -/
def scanFrom (shape : Text → Option Occurrence) (t : Text) (pos : Nat) (c : Cancellation) :
    Option (List Occurrence × Cancellation) :=
  if pos ≤ t.length then
    match c.poll with
    | none => none
    | some c =>
      match find shape (t.drop pos) with
      | none => some ([], c)
      | some found =>
        let o := found.shift pos
        (scanFrom shape t (o.resume pos) c).map fun (os, c) => (o :: os, c)
  else some ([], c)
termination_by t.length + 1 - pos
decreasing_by
  have := found.lt_resume_shift pos
  omega

/-- All occurrences of a shape in a text, left to right. -/
def scan (shape : Text → Option Occurrence) (t : Text) (c : Cancellation) :
    Option (List Occurrence × Cancellation) :=
  scanFrom shape t 0 c

end CallLight.Script
