/-!
# Letter case

Names are compared without regard to case where the names known are ASCII. Two letters beyond ASCII
have an ASCII letter as their other case: the long s and the Kelvin sign.
-/

namespace CallLight

/-- The lower-case ASCII letter that a character is a case of; any other character is left alone. -/
def foldCase (c : Char) : Char :=
  if 'A' ≤ c && c ≤ 'Z' then Char.ofNat (c.toNat + 32)
  else if c.toNat == 0x17F then 's'
  else if c.toNat == 0x212A then 'k'
  else c

/-- Whether a name is the ASCII name `known`, case aside. -/
def sameName (known name : String) : Bool := name.toList.map foldCase == known.toList.map foldCase

end CallLight
