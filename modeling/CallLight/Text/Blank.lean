import CallLight.Text.Basic

/-!
# Blank characters

Two notions of blank: the white space that scripts may put between words, and the white space that
does not count when a setting is checked for being empty.
-/

namespace CallLight.Text

/-- The space separators (general category `Zs`). -/
def isSpaceSeparator (code : Nat) : Bool :=
  code == 0x20 || code == 0xA0 || code == 0x1680 || (0x2000 ≤ code && code ≤ 0x200A) ||
    code == 0x202F || code == 0x205F || code == 0x3000

/-- White space of scripts: tab to carriage return, the space separators, the line and paragraph
separators and the byte order mark. -/
def isScriptSpace (code : Nat) : Bool :=
  (9 ≤ code && code ≤ 13) || isSpaceSeparator code || code == 0xFEFF || code == 0x2028 ||
    code == 0x2029

/-- The `White_Space` property of Unicode. -/
def isWhiteSpace (code : Nat) : Bool :=
  (9 ≤ code && code ≤ 13) || isSpaceSeparator code || code == 0x85 || code == 0x2028 ||
    code == 0x2029

/-- The number of bytes of the white space at the front of a script. -/
def scriptSpace : Text → Nat
  | [] => 0
  | a :: rest =>
    let r := decode a rest
    if isScriptSpace r.code then r.width + scriptSpace (rest.drop (r.width - 1)) else 0
termination_by t => t.length
decreasing_by simp only [List.length_drop, List.length_cons]; omega

/-- Whether a text holds nothing but white space. -/
def isBlank (t : Text) : Bool := t.runes.all (isWhiteSpace ·.code)

end CallLight.Text
