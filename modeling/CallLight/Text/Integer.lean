/-!
# Decimal integers
-/

namespace CallLight.Text

/-- Reads decimal digits. -/
def digits? (cs : List Char) : Option Nat :=
  if cs.isEmpty || cs.any (!·.isDigit) then none
  else some (cs.foldl (fun n c => n * 10 + (c.toNat - 48)) 0)

/-- Reads a decimal integer with an optional sign, within 64 bits. -/
def integer? (s : String) : Option Int :=
  let value : Option Int := match s.toList with
    | '-' :: cs => (digits? cs).map fun n => -(n : Int)
    | '+' :: cs => (digits? cs).map Int.ofNat
    | cs => (digits? cs).map Int.ofNat
  value.filter fun n => -0x8000000000000000 ≤ n && n < 0x8000000000000000

end CallLight.Text
