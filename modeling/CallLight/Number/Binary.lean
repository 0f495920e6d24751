/-!
# Binary numbers of limited precision

A number is a whole mantissa times a power of two, kept to a number of significant bits. Results
that do not fit are rounded to the nearest number that does, a tie to the even neighbour. There are
two infinities and a negative zero; what would have no value (zero by zero, opposing infinities) is
`none`.
-/

namespace CallLight

/-- A number of limited precision: `mantissa * 2 ^ exponent` with its sign, or an infinity. -/
inductive Number where
  | finite (negative : Bool) (mantissa : Nat) (exponent : Int) (precision : Nat)
  | infinite (negative : Bool)
deriving DecidableEq, Repr

namespace Number

/-- The number of bits of a whole number. -/
def bitLength (n : Nat) : Nat := if n = 0 then 0 else n.log2 + 1

/-- Divides by a power of two, to the nearest whole number, a tie to the even one. -/
def shiftRound (m s : Nat) : Nat :=
  let q := m >>> s
  let r := m - (q <<< s)
  let half := 1 <<< (s - 1)
  if s = 0 then m
  else if r < half then q
  else if half < r then q + 1
  else if q % 2 = 0 then q else q + 1

/-- Rounds a mantissa to a precision. -/
def round (negative : Bool) (m : Nat) (e : Int) (precision : Nat) : Number :=
  let s := bitLength m - precision
  .finite negative (shiftRound m s) (e + s) precision

/-- The quotient of two whole numbers times a power of two, rounded once. -/
def ofRatio (negative : Bool) (num den : Nat) (e : Int) (precision : Nat) : Number :=
  -- two bits more than the precision, and a last one that says whether anything is left
  let k := precision + 2 + bitLength den - bitLength num
  let q := (num <<< k) / den
  let sticky := if (num <<< k) % den = 0 then 0 else 1
  round negative (2 * q + sticky) (e - k - 1) precision

/-- The precision of literals. -/
def literalPrecision : Nat := 512

/-- A whole number. -/
def ofNat (n precision : Nat) : Number := round false n 0 precision

def isNegative : Number → Bool
  | .finite negative _ _ _ => negative
  | .infinite negative => negative

def isZero : Number → Bool
  | .finite _ m _ _ => m == 0
  | .infinite _ => false

def precisionOf : Number → Nat
  | .finite _ _ _ p => p
  | .infinite _ => 0

/-- The number with the other sign. -/
def neg : Number → Number
  | .finite negative m e p => .finite (!negative) m e p
  | .infinite negative => .infinite (!negative)

/-- The value of a mantissa at a smaller exponent. -/
def scaled (negative : Bool) (m : Nat) (e low : Int) : Int :=
  let v : Int := (m <<< (e - low).toNat : Nat)
  if negative then -v else v

/-- The sum, rounded to a precision. -/
def addTo (precision : Nat) : Number → Number → Option Number
  | .infinite a, .infinite b => if a == b then some (.infinite a) else none
  | .infinite a, _ => some (.infinite a)
  | _, .infinite b => some (.infinite b)
  | .finite na ma ea _, .finite nb mb eb _ =>
    if ma = 0 && mb = 0 then some (.finite (na && nb) 0 0 precision)
    else
      let low := min ea eb
      let sum := scaled na ma ea low + scaled nb mb eb low
      some (round (sum < 0) sum.natAbs low precision)

/-- The sum. -/
def add (a b : Number) : Option Number := addTo (max a.precisionOf b.precisionOf) a b

/-- The difference. -/
def sub (a b : Number) : Option Number := add a b.neg

/-- The product, rounded to a precision. -/
def mulTo (precision : Nat) : Number → Number → Option Number
  | .finite na ma ea _, .finite nb mb eb _ =>
    some (round (na != nb) (ma * mb) (ea + eb) precision)
  | a, b =>
    if a.isZero || b.isZero then none else some (.infinite (a.isNegative != b.isNegative))

/-- The number of bits of a mantissa without the zeros at its end. -/
def usedBits (m : Nat) : Nat :=
  if m = 0 then 0
  else if m % 2 = 0 then usedBits (m / 2) else bitLength m
termination_by m

/-- Gives a number the precision it needs, which is at least `precision`. -/
def withPrecision (precision : Nat) : Number → Number
  | .finite negative m e _ => .finite negative m e (max precision (usedBits m))
  | .infinite negative => .infinite negative

/-- The product. It is worked out in full and then kept to the larger precision of the two factors,
or to the bits it needs. -/
def mul (a b : Number) : Option Number :=
  (mulTo literalPrecision a b).map (withPrecision (max a.precisionOf b.precisionOf))

/-- The quotient; a number by zero is infinite. -/
def div : Number → Number → Option Number
  | .infinite _, .infinite _ => none
  | .infinite a, b => some (.infinite (a != b.isNegative))
  | .finite na _ _ p, .infinite b => some (.finite (na != b) 0 0 p)
  | .finite na ma ea pa, .finite nb mb eb pb =>
    if mb = 0 then
      if ma = 0 then none else some (.infinite (na != nb))
    else some (ofRatio (na != nb) ma mb (ea - eb) (max pa pb))

/-- The whole part, towards zero. -/
def truncate : Number → Int
  | .finite negative m e _ =>
    let v : Nat := if 0 ≤ e then m <<< e.toNat else m >>> (-e).toNat
    if negative then -(v : Int) else v
  | .infinite _ => 0

/-- The remainder of a division towards zero; by zero it is the number itself. -/
def rem (a b : Number) : Option Number :=
  match a, b with
  | .infinite _, .infinite _ => none
  | .finite .., .infinite _ => none
  | .infinite _, .finite .. => some a
  | .finite _ _ _ p, .finite .. =>
    if b.isZero then some a
    else do
      let q ← a.div b
      let product ← mulTo p b (round (q.truncate < 0) q.truncate.natAbs 0 p)
      addTo p a product.neg

/-- Which of two numbers is the larger. -/
def compare (a b : Number) : Ordering :=
  match a, b with
  | .infinite na, .infinite nb => if na == nb then .eq else if na then .lt else .gt
  | .infinite na, _ => if na then .lt else .gt
  | _, .infinite nb => if nb then .gt else .lt
  | .finite na ma ea _, .finite nb mb eb _ =>
    let low := min ea eb
    Ord.compare (scaled na ma ea low) (scaled nb mb eb low)

/-- The number as a list index, if it is one. -/
def toIndex? (n : Number) : Option Nat :=
  match n with
  | .finite negative m e _ =>
    if m = 0 then some 0
    else if negative then none
    else if 0 ≤ e then some (m <<< e.toNat)
    else
      let s := (-e).toNat
      if (m >>> s) <<< s = m then some (m >>> s) else none
  | .infinite _ => none

end Number

end CallLight
