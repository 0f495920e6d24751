/-!
# Byte texts

A text is a sequence of bytes that is meant to be UTF-8 and need not be. Reading it never fails: a
byte that starts no well-formed sequence stands for one U+FFFD of its own, one byte wide.
-/

namespace CallLight

/-- A text, as the bytes of a file or of a message. -/
abbrev Text := List UInt8

/-- One character read off a text: its code point and the number of bytes it takes. -/
structure Rune where
  code : Nat
  width : Nat
deriving DecidableEq, Repr

namespace Rune

/-- The replacement character, as read from a byte that is not part of any character. -/
def invalid : Rune := ⟨0xFFFD, 1⟩

/-- U+FFFD written out takes three bytes, so one byte wide means that the text was malformed. -/
def isInvalid (r : Rune) : Bool := r.code == 0xFFFD && r.width == 1

/-- The number of UTF-16 code units of the character. -/
def units (r : Rune) : Nat := if r.code < 0x10000 then 1 else 2

end Rune

namespace Text

/-- A byte that can only stand inside a character. -/
def isTail (b : UInt8) : Bool := 0x80 ≤ b && b ≤ 0xBF

/-- The six payload bits of a tail byte. -/
def tailBits (b : UInt8) : Nat := b.toNat % 64

/-- Reads the character that starts with `a`. Overlong forms, surrogates and values above U+10FFFF
are no characters; the bounds on the second byte rule them out. -/
def decode (a : UInt8) (rest : Text) : Rune :=
  if a < 0x80 then ⟨a.toNat, 1⟩
  else if a < 0xC2 then .invalid
  else if a < 0xE0 then
    match rest with
    | b :: _ => if isTail b then ⟨a.toNat % 32 * 64 + tailBits b, 2⟩ else .invalid
    | _ => .invalid
  else if a < 0xF0 then
    match rest with
    | b :: c :: _ =>
      let low : UInt8 := if a == 0xE0 then 0xA0 else 0x80
      let high : UInt8 := if a == 0xED then 0x9F else 0xBF
      if low ≤ b && b ≤ high && isTail c then
        ⟨(a.toNat % 16 * 64 + tailBits b) * 64 + tailBits c, 3⟩
      else .invalid
    | _ => .invalid
  else if a < 0xF5 then
    match rest with
    | b :: c :: d :: _ =>
      let low : UInt8 := if a == 0xF0 then 0x90 else 0x80
      let high : UInt8 := if a == 0xF4 then 0x8F else 0xBF
      if low ≤ b && b ≤ high && isTail c && isTail d then
        ⟨((a.toNat % 8 * 64 + tailBits b) * 64 + tailBits c) * 64 + tailBits d, 4⟩
      else .invalid
    | _ => .invalid
  else .invalid

/-- The characters of a text, left to right. -/
def runes : Text → List Rune
  | [] => []
  | a :: rest => decode a rest :: runes (rest.drop ((decode a rest).width - 1))
termination_by t => t.length
decreasing_by simp only [List.length_drop, List.length_cons]; omega

/-- Whether the text is well-formed UTF-8. -/
def isValid (t : Text) : Bool := t.runes.all (!·.isInvalid)

/-- The length of a text in UTF-16 code units. -/
def units (t : Text) : Nat := t.runes.foldr (fun r n => r.units + n) 0

/-- The bytes of a string. -/
def ofString (s : String) : Text := s.toUTF8.data.toList

/-- The bytes of a sequence of characters. -/
def ofChars (cs : List Char) : Text := ofString (String.ofList cs)

/-- The characters of a text, each invalid byte replaced by U+FFFD. -/
def chars (t : Text) : List Char := t.runes.map (Char.ofNat ·.code)

/-- The text as a string, each invalid byte replaced by U+FFFD. -/
def toStringLossy (t : Text) : String := String.ofList t.chars

/-- Drops `lead` from the front, if the text starts with it. -/
def dropLead? : (lead t : Text) → Option Text
  | [], t => some t
  | _ :: _, [] => none
  | p :: lead, b :: t => if p == b then dropLead? lead t else none

/-- Drops `lead` from the front of a text that starts with it; any other text stays as it is. -/
def trimLead (lead t : Text) : Text := (dropLead? lead t).getD t

/-- Byte order: the first difference decides, and a proper beginning comes first. -/
def lt : Text → Text → Bool
  | [], [] => false
  | [], _ :: _ => true
  | _ :: _, [] => false
  | a :: s, b :: t => a < b || (a == b && lt s t)

end Text

end CallLight
