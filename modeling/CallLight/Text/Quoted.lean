import CallLight.Text.Basic
import CallLight.Text.Printable

/-!
# Quoted text

Text in double quotes. Quotes and backslashes are escaped, the usual control characters have short
escapes, and what is not printable is written by its number.
-/

namespace CallLight.Text

/-- Hexadecimal digits of a number, padded with zeros to a width. -/
def hexDigits (width n : Nat) : String :=
  let ds := Nat.toDigits 16 n
  String.ofList (List.replicate (width - ds.length) '0' ++ ds)

/-- The short escapes. -/
def shortEscape? : Nat → Option Char
  | 7 => some 'a'
  | 8 => some 'b'
  | 12 => some 'f'
  | 10 => some 'n'
  | 13 => some 'r'
  | 9 => some 't'
  | 11 => some 'v'
  | 34 => some '"'
  | 92 => some '\\'
  | _ => none

/-- One character inside quotes; `byte` is its first byte. -/
def quoteRune (byte : UInt8) (r : Rune) : String :=
  if r.isInvalid then "\\x" ++ hexDigits 2 byte.toNat
  else
    match shortEscape? r.code with
    | some c => String.ofList ['\\', c]
    | none =>
      if isPrintable r.code then String.singleton (Char.ofNat r.code)
      else if r.code < 0x80 then "\\x" ++ hexDigits 2 r.code
      else if r.code < 0x10000 then "\\u" ++ hexDigits 4 r.code
      else "\\U" ++ hexDigits 8 r.code

/-- The characters of a text as they stand between quotes. -/
def quoteBody : Text → String
  | [] => ""
  | a :: rest =>
    quoteRune a (decode a rest) ++ quoteBody (rest.drop ((decode a rest).width - 1))
termination_by t => t.length
decreasing_by simp only [List.length_drop, List.length_cons]; omega

/-- A text in double quotes. -/
def quote (t : Text) : String := "\"" ++ quoteBody t ++ "\""

end CallLight.Text
