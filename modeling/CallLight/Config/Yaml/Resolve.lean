import CallLight.Config.Yaml.Parser

/-!
# Values of scalars

What a scalar without a tag stands for, and whether a scalar is what its tag says.
-/

namespace CallLight.Yaml

/-- The kinds of values a plain scalar can have. -/
inductive Kind where
  | null
  | bool (b : Bool)
  | int
  | float
  | timestamp
  | string
deriving DecidableEq, Repr

/-- Scalars that are known by their text. -/
def knownScalar? : String → Option Kind
  | "" | "~" | "null" | "Null" | "NULL" => some .null
  | "true" | "True" | "TRUE" => some (.bool true)
  | "false" | "False" | "FALSE" => some (.bool false)
  | ".nan" | ".NaN" | ".NAN" => some .float
  | ".inf" | ".Inf" | ".INF" => some .float
  | "+.inf" | "+.Inf" | "+.INF" | "-.inf" | "-.Inf" | "-.INF" => some .float
  | _ => none

/-! ## Numbers -/

/-- The value of a digit in bases up to sixteen. -/
def digitValue? (c : Char) : Option Nat :=
  if isHexDigit c then some (Text.hexValue c) else none

/-- The value of digits in a base; at least one is needed. -/
def digitsIn? (base : Nat) (cs : List Char) : Option Nat :=
  if cs.isEmpty then none
  else
    cs.foldlM (fun n c => (digitValue? c).bind fun d =>
      if d < base then some (n * base + d) else none) 0

/-- The value of a number without a sign, in the base its first characters tell. -/
def unsigned? : List Char → Option Nat
  | '0' :: x :: rest =>
    if x == 'x' || x == 'X' then digitsIn? 16 rest
    else if x == 'b' || x == 'B' then digitsIn? 2 rest
    else if x == 'o' || x == 'O' then digitsIn? 8 rest
    else digitsIn? 8 (x :: rest)
  | cs => digitsIn? 10 cs

/-- Whether a text is a whole number that fits a machine word. -/
def isInt (cs : List Char) : Bool :=
  match cs with
  | '-' :: cs => (unsigned? cs).any (· ≤ 0x8000000000000000)
  | '+' :: cs => (unsigned? cs).any (· < 0x8000000000000000)
  | cs => (unsigned? cs).any (· < UInt64.size)

/-- Takes the digits at the front: how many there are, their value, and the rest. -/
def leadingDigits (cs : List Char) : Nat × Nat × List Char :=
  let digits := cs.takeWhile Char.isDigit
  (digits.length, digits.foldl (fun n d => n * 10 + (d.toNat - 48)) 0, cs.drop digits.length)

/-- The exponent behind the digits of a number. -/
def exponent? : List Char → Option Int
  | [] => some 0
  | e :: rest =>
    if e != 'e' && e != 'E' then none
    else
      let (negative, rest) := match rest with
        | '-' :: rest => (true, rest)
        | '+' :: rest => (false, rest)
        | rest => (false, rest)
      let (count, value, rest) := leadingDigits rest
      if count = 0 || !rest.isEmpty then none else some (if negative then -(value : Int) else value)

/-- Whether a decimal number is small enough for a machine number: it rounds to less than the first
power of two beyond them. -/
def fitsFloat (mantissa : Nat) (exponent : Int) : Bool :=
  let limit := 1 <<< 1024 - 1 <<< 970
  if mantissa = 0 then true
  else if 400 < exponent then false
  else if 0 ≤ exponent then mantissa * Nat.pow 10 exponent.toNat < limit
  else if (-exponent).toNat < 100000 then mantissa < limit * Nat.pow 10 (-exponent).toNat
  else true

/-- Whether a text is a decimal number with a point or an exponent or without. -/
def isFloat (cs : List Char) : Bool :=
  let cs := match cs with
    | '-' :: cs => cs
    | '+' :: cs => cs
    | cs => cs
  let (whole, value, rest) := leadingDigits cs
  let (places, value, rest) := match rest with
    | '.' :: rest =>
      let (places, fraction, rest) := leadingDigits rest
      (places, value * Nat.pow 10 places + fraction, rest)
    | rest => (0, value, rest)
  (whole != 0 || places != 0) &&
    (exponent? rest).any fun e => fitsFloat value (e - places)

/-! ## Points in time -/

/-- Takes a number of one or two digits. -/
def shortNumber? (cs : List Char) : Option (Nat × List Char) :=
  match cs with
  | a :: b :: rest =>
    if a.isDigit && b.isDigit then some ((a.toNat - 48) * 10 + (b.toNat - 48), rest)
    else if a.isDigit then some (a.toNat - 48, b :: rest)
    else none
  | [a] => if a.isDigit then some (a.toNat - 48, []) else none
  | [] => none

/-- Takes a certain character. -/
def takeChar (c : Char) : List Char → Option (List Char)
  | d :: rest => if c == d then some rest else none
  | [] => none

def isLeapYear (y : Nat) : Bool := y % 4 = 0 && (y % 100 ≠ 0 || y % 400 = 0)

def daysIn (year month : Nat) : Nat :=
  if month = 2 then (if isLeapYear year then 29 else 28)
  else if month = 4 || month = 6 || month = 9 || month = 11 then 30
  else 31

/-- Takes a date. -/
def date? (cs : List Char) : Option (List Char) := do
  let year := cs.take 4
  if year.length != 4 || !year.all Char.isDigit then none
  else
    let (_, y, _) := leadingDigits year
    let (m, rest) ← shortNumber? (← takeChar '-' (cs.drop 4))
    let (d, rest) ← shortNumber? (← takeChar '-' rest)
    if 1 ≤ m && m ≤ 12 && 1 ≤ d && d ≤ daysIn y m then some rest else none

/-- Takes a time of day, with a fraction of a second if there is one. -/
def timeOfDay? (cs : List Char) : Option (List Char) := do
  let (h, rest) ← shortNumber? cs
  let (m, rest) ← shortNumber? (← takeChar ':' rest)
  let (s, rest) ← shortNumber? (← takeChar ':' rest)
  if 24 ≤ h || 60 ≤ m || 60 ≤ s then none
  else
    match rest with
    | '.' :: rest =>
      let (count, _, after) := leadingDigits rest
      if count = 0 then some ('.' :: rest) else some after
    | rest => some rest

/-- Whether a text is a time zone. -/
def isZone : List Char → Bool
  | ['Z'] => true
  | [sign, a, b, ':', c, d] =>
    (sign == '+' || sign == '-') && a.isDigit && b.isDigit && c.isDigit && d.isDigit &&
      (a.toNat - 48) * 10 + (b.toNat - 48) ≤ 24 && (c.toNat - 48) * 10 + (d.toNat - 48) < 60
  | _ => false

/-- Whether a text is a point in time. -/
def isTimestamp (cs : List Char) : Bool :=
  match date? cs with
  | none => false
  | some [] => true
  | some (sep :: rest) =>
    if sep == 'T' || sep == 't' then (timeOfDay? rest).any isZone
    else if sep == ' ' then (timeOfDay? rest).any List.isEmpty
    else false

/-! ## Scalars -/

/-- The kind of a scalar by its text. Points in time are looked for only if `times` says so. -/
def kindOf (times : Bool) (text : String) : Kind :=
  match knownScalar? text with
  | some k => k
  | none =>
    match text.toList with
    | [] => .null
    | c :: _ =>
      if c == '.' then (if isFloat text.toList then .float else .string)
      else if c.isDigit || c == '+' || c == '-' then
        let plain := text.toList.filter (· != '_')
        if times && isTimestamp text.toList then .timestamp
        else if isInt plain then .int
        else if isFloat plain then .float
        else .string
      else .string

/-- What a scalar stands for: nothing, a truth value, or something else with its text. -/
inductive Resolved where
  | null
  | bool (b : Bool)
  | string (text : String)
  /-- A number or a point in time. -/
  | other
deriving Repr

def Kind.resolved (text : String) : Kind → Resolved
  | .null => .null
  | .bool b => .bool b
  | .string => .string text
  | _ => .other

/-- The value of a base64 digit. -/
def base64Value? (c : Char) : Option Nat :=
  if 'A' ≤ c && c ≤ 'Z' then some (c.toNat - 65)
  else if 'a' ≤ c && c ≤ 'z' then some (c.toNat - 71)
  else if c.isDigit then some (c.toNat + 4)
  else if c == '+' then some 62
  else if c == '/' then some 63
  else none

/-- Decodes base64 digits by groups of four; the last group may be padded. -/
def base64Groups : List Char → Option Text
  | [] => some []
  | [a, b, '=', '='] => do
    let a ← base64Value? a
    let b ← base64Value? b
    return [UInt8.ofNat (a * 4 + b / 16)]
  | [a, b, c, '='] => do
    let a ← base64Value? a
    let b ← base64Value? b
    let c ← base64Value? c
    return [UInt8.ofNat (a * 4 + b / 16), UInt8.ofNat (b * 16 + c / 4)]
  | a :: b :: c :: d :: rest => do
    let a ← base64Value? a
    let b ← base64Value? b
    let c ← base64Value? c
    let d ← base64Value? d
    return UInt8.ofNat (a * 4 + b / 16) :: UInt8.ofNat (b * 16 + c / 4) ::
      UInt8.ofNat (c * 64 + d) ::
      (← base64Groups rest)
  | _ => none

/-- Decodes base64; line breaks in it do not count. -/
def base64? (text : String) : Option Text :=
  base64Groups (text.toList.filter fun c => c != '\n' && c != '\r')

/-- The value of a scalar, if its text fits its tag. -/
def resolve (tag text : String) (plain : Bool) : Option Resolved :=
  let kind := kindOf (tag == "" || tag == "!!timestamp") text
  match tag with
  | "" => some (if plain && text != "<<" then kind.resolved text else .string text)
  | "!!str" => some (.string text)
  | "!!null" => if kind = .null then some .null else none
  | "!!bool" =>
    match kind with
    | .bool b => some (.bool b)
    | _ => none
  | "!!int" => if kind = .int then some .other else none
  | "!!float" => if kind = .int || kind = .float then some .other else none
  | "!!timestamp" => if kind = .timestamp then some .other else none
  | "!!binary" => (base64? text).map fun bytes => .string (Text.toStringLossy bytes)
  | _ => some (.string text)

end CallLight.Yaml
