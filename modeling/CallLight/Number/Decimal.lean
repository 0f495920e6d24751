import CallLight.Number.Binary

/-!
# Decimal text of binary numbers

Reading rounds to the nearest number of the precision of literals. Writing gives the fewest digits
that read back as the same number, positional and without an exponent.
-/

namespace CallLight

/-- The digits of a positive number without zeros at the ends, and the place of the point: the value
is `0.d₁d₂… * 10 ^ point`. -/
structure Digits where
  digits : List Nat
  point : Int
deriving Repr

namespace Digits

/-- Drops zeros at the end. -/
def trim (d : Digits) : Digits :=
  let ds := (d.digits.reverse.dropWhile (· == 0)).reverse
  ⟨ds, if ds.isEmpty then 0 else d.point⟩

/-- The exact decimal value of `m * 2 ^ e`. -/
def ofBinary (m : Nat) (e : Int) : Digits :=
  if m = 0 then ⟨[], 0⟩
  else
    let places := (-e).toNat
    let whole := if 0 ≤ e then m <<< e.toNat else m * Nat.pow 5 places
    let ds := (Nat.toDigits 10 whole).map fun c => c.toNat - 48
    trim ⟨ds, (ds.length : Int) - places⟩

/-- The digit at an index, zero beyond the last one. -/
def get (d : Digits) (i : Nat) : Nat := (d.digits[i]?).getD 0

/-- Keeps the first `n` digits. -/
def roundDown (d : Digits) (n : Nat) : Digits := trim ⟨d.digits.take n, d.point⟩

/-- Keeps the first `n` digits and adds one to the last of them. -/
def roundUp (d : Digits) (n : Nat) : Digits :=
  match (d.digits.take n).reverse.dropWhile (· == 9) with
  | [] => ⟨[1], d.point + 1⟩
  | last :: rest => ⟨((last + 1) :: rest).reverse, d.point⟩

/-- Keeps the first `n` digits, to the nearest, a tie to the even digit. -/
def round (d : Digits) (n : Nat) : Digits :=
  if d.digits.length ≤ n then d
  else
    let next := d.get n
    let up :=
      if next == 5 && n + 1 == d.digits.length then 0 < n && d.get (n - 1) % 2 == 1
      else 5 ≤ next
    if up then d.roundUp n else d.roundDown n

/-- Cuts digits off as long as the result stays between the two neighbours. `ends` says whether the
neighbours themselves are good enough. -/
def shortenFrom (d lower upper : Digits) (ends : Bool) (i : Nat) : List Nat → Digits
  | [] => d
  | m :: rest =>
    let l := lower.get i
    let u := upper.get i
    let down := l != m || (ends && i + 1 == lower.digits.length)
    let up := m != u && (ends || m + 1 < u || i + 1 < upper.digits.length)
    if down && up then d.round (i + 1)
    else if down then d.roundDown (i + 1)
    else if up then d.roundUp (i + 1)
    else shortenFrom d lower upper ends (i + 1) rest

/-- Positional text. -/
def render (d : Digits) : String :=
  let whole :=
    if 0 < d.point then (List.range d.point.toNat).map fun i => d.get i else [0]
  let places := ((d.digits.length : Int) - d.point).toNat
  let fraction := (List.range places).map fun (i : Nat) =>
    let k := d.point + (i : Int)
    if k < 0 then 0 else d.get k.toNat
  let text (ds : List Nat) := String.ofList (ds.map fun n => Char.ofNat (48 + n))
  if fraction.isEmpty then text whole else text whole ++ "." ++ text fraction

end Digits

namespace Number

/-- The fewest digits that read back as the number. -/
def shortest (m : Nat) (e : Int) (precision : Nat) : Digits :=
  -- the mantissa with one bit more than the precision, so that its last bit is half a step
  let s : Int := (bitLength m : Int) - (precision + 1)
  let half := if s < 0 then m <<< (-s).toNat else m >>> s.toNat
  let d := Digits.ofBinary m e
  Digits.shortenFrom d (.ofBinary (half - 1) (e + s)) (.ofBinary (half + 1) (e + s))
    ((half / 2) % 2 == 0) 0 d.digits

/-- The text of a number. -/
def render : Number → String
  | .infinite negative => if negative then "-Inf" else "+Inf"
  | .finite negative m e p =>
    (if negative then "-" else "") ++ if m = 0 then "0" else (shortest m e p).render

/-- Equal numbers are those with the same text, zeros of either sign being equal. -/
def sameText (a b : Number) : Bool :=
  if a.isZero || b.isZero then a.isZero && b.isZero
  else a.isNegative == b.isNegative && a.render == b.render

/-- Reads decimal digits from the front: their value, their count and the rest. -/
def leadingDigits (value count : Nat) : List Char → Nat × Nat × List Char
  | [] => (value, count, [])
  | c :: cs =>
    if c.isDigit then leadingDigits (value * 10 + (c.toNat - 48)) (count + 1) cs
    else (value, count, c :: cs)

/-- Reads an exponent, to the base ten after `e` and to the base two after `p`. -/
def exponent? : List Char → Option (Int × Int)
  | [] => some (0, 0)
  | mark :: cs =>
    let (negative, cs) := match cs with
      | '-' :: cs => (true, cs)
      | '+' :: cs => (false, cs)
      | cs => (false, cs)
    let (value, count, rest) := leadingDigits 0 0 cs
    let value : Int := if negative then -(value : Int) else value
    if count = 0 || !rest.isEmpty then none
    else if mark == 'e' || mark == 'E' then some (value, 0)
    else if mark == 'p' || mark == 'P' then some (0, value)
    else none

/-- The exponents a number may have once its mantissa is written as a fraction below one. -/
def exponentLimit : Int := 0x80000000

/-- Replaces a number whose exponent is out of range by an infinity or by zero. -/
def clamp : Number → Number
  | .infinite negative => .infinite negative
  | .finite negative m e p =>
    let top := e + bitLength m
    if m = 0 then .finite negative 0 0 p
    else if exponentLimit ≤ top then .infinite negative
    else if top < -exponentLimit then .finite negative 0 0 p
    else .finite negative m e p

/-- The product of two numbers of the same sign, with its exponent kept in range. -/
def timesTo (precision : Nat) (a b : Number) : Number :=
  clamp ((mulTo precision a b).getD (.infinite false))

/-- Multiplies `z` by `f` to the power `n`, squaring `f` at each bit of `n`. -/
def mulPower (precision : Nat) (z f : Number) (n : Nat) : Number :=
  if h : n = 0 then z
  else
    mulPower precision (if n % 2 = 1 then timesTo precision z f else z)
      (timesTo (precision + 64) f f)
      (n / 2)
termination_by n
decreasing_by exact Nat.div_lt_self (Nat.pos_of_ne_zero h) (by decide)

/-- A power of five. Beyond the 27th, which still fits a machine word, it is a product of rounded
squares, whose spare bits keep it good for a literal. -/
def powerOfFive (n : Nat) : Number :=
  let precision := literalPrecision + 64
  if n ≤ 27 then .finite false (Nat.pow 5 n) 0 precision
  else
    mulPower precision (.finite false (Nat.pow 5 27) 0 precision) (.finite false 5 0 (precision + 64))
      (n - 27)

/-- The number `mantissa * 2 ^ twos * 5 ^ fives`, at the precision of literals. -/
def ofScaled (negative : Bool) (mantissa : Nat) (twos fives : Int) : Number :=
  if fives = 0 then round negative mantissa twos literalPrecision
  else
    match powerOfFive fives.natAbs with
    | .infinite _ =>
      if 0 < fives then .infinite negative else .finite negative 0 0 literalPrecision
    | .finite _ m e _ =>
      clamp <|
        if 0 < fives then round negative (mantissa * m) (twos + e) literalPrecision
        else ofRatio negative mantissa m (twos - e) literalPrecision

/-- Reads an unsigned decimal number. -/
def parseUnsigned? (negative : Bool) (cs : List Char) : Option Number :=
  let (whole, wholeCount, rest) := leadingDigits 0 0 cs
  let (mantissa, places, rest) := match rest with
    | '.' :: rest =>
      let (value, count, rest) := leadingDigits whole 0 rest
      (value, count, rest)
    | rest => (whole, 0, rest)
  if wholeCount = 0 && places = 0 then none
  else
    (exponent? rest).bind fun (tens, twos) =>
      let fives := tens - places
      let twos := twos + fives
      let top := twos + bitLength mantissa
      if mantissa = 0 then some (.finite negative 0 0 literalPrecision)
      else if top < -exponentLimit || exponentLimit ≤ top then none
      else some (ofScaled negative mantissa twos fives)

/-- Reads a decimal number with an optional sign, or the name of an infinity. -/
def parse? (s : String) : Option Number :=
  let (negative, cs) := match s.toList with
    | '-' :: cs => (true, cs)
    | '+' :: cs => (false, cs)
    | cs => (false, cs)
  if cs == ['I', 'n', 'f'] || cs == ['i', 'n', 'f'] then some (.infinite negative)
  else parseUnsigned? negative cs

end Number

end CallLight
