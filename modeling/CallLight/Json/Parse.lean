import CallLight.Json.Basic
import CallLight.Text.Table

/-!
# Reading JSON

A strict reader: no blanks but space, tab and line breaks, no control characters in strings, no
leading zeros. Bytes of a string that are no UTF-8 and halves of surrogate pairs become U+FFFD. The
text of a member of an object can be had as it is written.
-/

namespace CallLight.JsonValue

def isSpace (b : UInt8) : Bool := b == 0x20 || b == 0x09 || b == 0x0A || b == 0x0D

def isDigit (b : UInt8) : Bool := 0x30 ≤ b && b ≤ 0x39

def skipSpace (t : Text) : Text := t.dropWhile isSpace

/-! ## Numbers -/

/-- The digits at the front, and what follows them. -/
def digits (t : Text) : Text × Text :=
  let ds := t.takeWhile isDigit
  (ds, t.drop ds.length)

/-- The whole part of a number, which has no zero at the front unless it is zero. -/
def wholePart? (t : Text) : Option (Text × Text) :=
  match t with
  | 0x30 :: rest => some ([0x30], rest)
  | _ =>
    let (ds, rest) := digits t
    if ds.isEmpty then none else some (ds, rest)

/-- The part behind the point, if there is a point. -/
def fraction? (t : Text) : Option (Text × Text) :=
  match t with
  | 0x2E :: rest =>
    let (ds, rest) := digits rest
    if ds.isEmpty then none else some (0x2E :: ds, rest)
  | _ => some ([], t)

/-- The exponent, if there is one. -/
def exponent? (t : Text) : Option (Text × Text) :=
  match t with
  | e :: rest =>
    if e == 0x65 || e == 0x45 then
      let (sign, rest) := match rest with
        | 0x2B :: rest => ([0x2B], rest)
        | 0x2D :: rest => ([0x2D], rest)
        | rest => (([] : Text), rest)
      let (ds, rest) := digits rest
      if ds.isEmpty then none else some (e :: sign ++ ds, rest)
    else some ([], t)
  | [] => some ([], t)

/-- A number, as it is written. -/
def number? (t : Text) : Option (Text × Text) := do
  let (sign, t) := match t with
    | 0x2D :: t => ([0x2D], t)
    | t => (([] : Text), t)
  let (whole, t) ← wholePart? t
  let (fraction, t) ← fraction? t
  let (exponent, t) ← exponent? t
  return (sign ++ whole ++ fraction ++ exponent, t)

/-! ## Strings -/

/-- The value of four hexadecimal digits. -/
def fourHex? (t : Text) : Option (Nat × Text) :=
  match t with
  | a :: b :: c :: d :: rest =>
    let cs := [a, b, c, d].map fun x => Char.ofNat x.toNat
    if cs.all fun x => x.isDigit || ('a' ≤ x && x ≤ 'f') || ('A' ≤ x && x ≤ 'F') then
      some (Text.hexNumber cs, rest)
    else none
  | _ => none

/-- The character of an escape by code unit; `t` is what follows the `u`. Two halves of a surrogate
pair make one character, and half a pair is replaced. -/
def unitEscape? (t : Text) : Option (Char × Text) :=
  (fourHex? t).map fun (unit, rest) =>
    if 0xD800 ≤ unit && unit ≤ 0xDBFF then
      match rest with
      | 0x5C :: 0x75 :: more =>
        match fourHex? more with
        | some (low, after) =>
          if 0xDC00 ≤ low && low ≤ 0xDFFF then
            (Char.ofNat (0x10000 + (unit - 0xD800) * 0x400 + (low - 0xDC00)), after)
          else ('\ufffd', rest)
        | none => ('\ufffd', rest)
      | _ => ('\ufffd', rest)
    else if 0xDC00 ≤ unit && unit ≤ 0xDFFF then ('\ufffd', rest)
    else (Char.ofNat unit, rest)

/-- The character of an escape; `t` is what follows the backslash. -/
def escape? (t : Text) : Option (Char × Text) :=
  match t with
  | 0x22 :: t => some ('"', t)
  | 0x5C :: t => some ('\\', t)
  | 0x2F :: t => some ('/', t)
  | 0x62 :: t => some ('\x08', t)
  | 0x66 :: t => some ('\x0c', t)
  | 0x6E :: t => some ('\n', t)
  | 0x72 :: t => some ('\r', t)
  | 0x74 :: t => some ('\t', t)
  | 0x75 :: t => unitEscape? t
  | _ => none

/-- The characters of a string behind its opening quote, and what follows its closing one. -/
def stringChars : (fuel : Nat) → Text → Option (List Char × Text)
  | 0, _ => none
  | _, [] => none
  | fuel + 1, b :: rest =>
    if b == 0x22 then some ([], rest)
    else if b < 0x20 then none
    else if b == 0x5C then
      (escape? rest).bind fun (c, rest) =>
        (stringChars fuel rest).map fun (cs, rest) => (c :: cs, rest)
    else
      let r := Text.decode b rest
      (stringChars fuel (rest.drop (r.width - 1))).map fun (cs, rest) =>
        (Char.ofNat r.code :: cs, rest)

/-- A string. -/
def string? (t : Text) : Option (String × Text) :=
  match t with
  | 0x22 :: rest =>
    (stringChars (rest.length + 1) rest).map fun (cs, rest) => (String.ofList cs, rest)
  | _ => none

/-! ## Values -/

mutual

/-- A value and what follows it. -/
def value? : (fuel : Nat) → Text → Option (JsonValue × Text)
  | 0, _ => none
  | fuel + 1, t =>
    match skipSpace t with
    | [] => none
    | 0x22 :: rest => (string? (0x22 :: rest)).map fun (s, rest) => (.string s, rest)
    | 0x5B :: rest =>
      match skipSpace rest with
      | 0x5D :: rest => some (.array [], rest)
      | rest => (items? fuel rest).map fun (vs, rest) => (.array vs, rest)
    | 0x7B :: rest =>
      match skipSpace rest with
      | 0x7D :: rest => some (.object [], rest)
      | rest => (members? fuel rest).map fun (ms, rest) => (.object ms, rest)
    | 0x6E :: 0x75 :: 0x6C :: 0x6C :: rest => some (.null, rest)
    | 0x74 :: 0x72 :: 0x75 :: 0x65 :: rest => some (.bool true, rest)
    | 0x66 :: 0x61 :: 0x6C :: 0x73 :: 0x65 :: rest => some (.bool false, rest)
    | t => (number? t).map fun (n, rest) => (.number (Text.toStringLossy n), rest)

/-- The items of an array, of which there is one at least, and what follows the array. -/
def items? : (fuel : Nat) → Text → Option (List JsonValue × Text)
  | 0, _ => none
  | fuel + 1, t => do
    let (v, rest) ← value? fuel t
    match skipSpace rest with
    | 0x2C :: rest =>
      let (vs, rest) ← items? fuel rest
      return (v :: vs, rest)
    | 0x5D :: rest => return ([v], rest)
    | _ => none

/-- The members of an object, of which there is one at least, and what follows the object. -/
def members? : (fuel : Nat) → Text → Option (List (String × JsonValue) × Text)
  | 0, _ => none
  | fuel + 1, t => do
    let (k, rest) ← string? (skipSpace t)
    match skipSpace rest with
    | 0x3A :: rest =>
      let (v, rest) ← value? fuel rest
      match skipSpace rest with
      | 0x2C :: rest =>
        let (ms, rest) ← members? fuel rest
        return ((k, v) :: ms, rest)
      | 0x7D :: rest => return ([(k, v)], rest)
      | _ => none
    | _ => none

end

/-- Enough fuel for a text: every call takes a byte. -/
def enoughFuel (t : Text) : Nat := 2 * t.length + 2

/-- The value of a text that holds one value and nothing else. -/
def parse (t : Text) : Option JsonValue :=
  (value? (enoughFuel t) t).bind fun (v, rest) => if (skipSpace rest).isEmpty then some v else none

/-! ## Texts as they are written -/

/-- The text of the value at the front, as it is written, and what follows it. -/
def rawValue? (t : Text) : Option (Text × Text) :=
  let t := skipSpace t
  (value? (enoughFuel t) t).map fun (_, rest) => (t.take (t.length - rest.length), rest)

/-- The members of an object behind its opening brace, with the texts of their values as they are
written. -/
def rawMembersFrom : (fuel : Nat) → Text → Option (List (String × Text) × Text)
  | 0, _ => none
  | fuel + 1, t => do
    let (k, rest) ← string? (skipSpace t)
    match skipSpace rest with
    | 0x3A :: rest =>
      let (raw, rest) ← rawValue? rest
      match skipSpace rest with
      | 0x2C :: rest =>
        let (ms, rest) ← rawMembersFrom fuel rest
        return ((k, raw) :: ms, rest)
      | 0x7D :: rest => return ([(k, raw)], rest)
      | _ => none
    | _ => none

/-- The members of a text that is an object. -/
def rawMembers? (t : Text) : Option (List (String × Text)) :=
  match skipSpace t with
  | 0x7B :: rest =>
    match skipSpace rest with
    | 0x7D :: rest => if (skipSpace rest).isEmpty then some [] else none
    | rest =>
      (rawMembersFrom (rest.length + 1) rest).bind fun (ms, rest) =>
        if (skipSpace rest).isEmpty then some ms else none
  | _ => none

/-- The items of an array behind its opening bracket, as they are written. -/
def rawItemsFrom : (fuel : Nat) → Text → Option (List Text × Text)
  | 0, _ => none
  | fuel + 1, t => do
    let (raw, rest) ← rawValue? t
    match skipSpace rest with
    | 0x2C :: rest =>
      let (vs, rest) ← rawItemsFrom fuel rest
      return (raw :: vs, rest)
    | 0x5D :: rest => return ([raw], rest)
    | _ => none

/-- The items of a text that is an array. -/
def rawItems? (t : Text) : Option (List Text) :=
  match skipSpace t with
  | 0x5B :: rest =>
    match skipSpace rest with
    | 0x5D :: rest => if (skipSpace rest).isEmpty then some [] else none
    | rest =>
      (rawItemsFrom (rest.length + 1) rest).bind fun (vs, rest) =>
        if (skipSpace rest).isEmpty then some vs else none
  | _ => none

end CallLight.JsonValue
