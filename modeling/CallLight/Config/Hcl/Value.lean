import CallLight.Number.Decimal
import CallLight.Text.Basic
import CallLight.Text.Normal

/-!
# Values of HCL

Expressions work on typed values. A value may be missing (`null`) or not be known; what failed to
evaluate goes on as an unknown value, so that what is around it still gets a type. `Ty.dynamic` is
the type of a value of which not even the type is known.
-/

namespace CallLight.Hcl

/-- Types. Tuples and objects have a type for each place, lists and maps one for all of them. -/
inductive Ty where
  | dynamic
  | string
  | number
  | bool
  | tuple (items : List Ty)
  | object (fields : List (String × Ty))
  | list (item : Ty)
  | map (item : Ty)
deriving Repr

namespace Ty

mutual

/-- Whether two types are the same. Fields are in the order of their names, in either type. -/
def same : Ty → Ty → Bool
  | .dynamic, .dynamic => true
  | .string, .string => true
  | .number, .number => true
  | .bool, .bool => true
  | .tuple as, .tuple bs => sameAll as bs
  | .object as, .object bs => sameFields as bs
  | .list a, .list b => same a b
  | .map a, .map b => same a b
  | _, _ => false

def sameAll : List Ty → List Ty → Bool
  | [], [] => true
  | a :: as, b :: bs => same a b && sameAll as bs
  | _, _ => false

def sameFields : List (String × Ty) → List (String × Ty) → Bool
  | [], [] => true
  | (m, a) :: as, (n, b) :: bs => m == n && same a b && sameFields as bs
  | _, _ => false

end

def isPrimitive : Ty → Bool
  | .string | .number | .bool => true
  | _ => false

def isDynamic : Ty → Bool
  | .dynamic => true
  | _ => false

end Ty

/-- Values. The entries of objects and maps are in the order of their names, each name once. -/
inductive Value where
  | unknown (ty : Ty)
  | null (ty : Ty)
  | string (text : String)
  | number (n : Number)
  | bool (b : Bool)
  | tuple (items : List Value)
  | object (fields : List (String × Value))
  | list (item : Ty) (items : List Value)
  | map (item : Ty) (entries : List (String × Value))
deriving Repr

/-- Puts an entry in its place by name; an entry of that name is replaced. -/
def insertField {α : Type} (name : String) (a : α) : List (String × α) → List (String × α)
  | [] => [(name, a)]
  | (n, b) :: rest =>
    if name == n then (name, a) :: rest
    else if Text.lt (Text.ofString name) (Text.ofString n) then (name, a) :: (n, b) :: rest
    else (n, b) :: insertField name a rest

namespace Value

/-- Text as a value: in composed form. -/
def ofString (s : String) : Value := .string (Text.normalize s)

/-- The value that stands for whatever failed. -/
def failed : Value := .unknown .dynamic

mutual

/-- The type of a value. -/
def ty : Value → Ty
  | .unknown t => t
  | .null t => t
  | .string _ => .string
  | .number _ => .number
  | .bool _ => .bool
  | .tuple vs => .tuple (tyAll vs)
  | .object fields => .object (tyFields fields)
  | .list t _ => .list t
  | .map t _ => .map t

def tyAll : List Value → List Ty
  | [] => []
  | v :: vs => ty v :: tyAll vs

def tyFields : List (String × Value) → List (String × Ty)
  | [] => []
  | (n, v) :: rest => (n, ty v) :: tyFields rest

end

def isNull : Value → Bool
  | .null _ => true
  | _ => false

def isKnown : Value → Bool
  | .unknown _ => false
  | _ => true

/-- What is found under a name. -/
def field? (name : String) (fields : List (String × Value)) : Option Value :=
  (fields.find? fun (n, _) => n == name).map (·.2)

/-- The verdict of a comparison, which is open when something unknown takes part. -/
def both : Option Bool → Option Bool → Option Bool
  | some false, _ => some false
  | none, _ => none
  | some true, b => b

mutual

/-- Whether two values are equal; `none` if that is not known yet. Missing values are equal whatever
their types, values of different types are not, and numbers are equal if they have the same text. -/
def equals : Value → Value → Option Bool
  | .unknown _, _ => none
  | _, .unknown _ => none
  | .null _, .null _ => some true
  | .null _, _ => some false
  | _, .null _ => some false
  | .string a, .string b => some (a == b)
  | .number a, .number b => some (a.sameText b)
  | .bool a, .bool b => some (a == b)
  | .tuple as, .tuple bs =>
    if Ty.sameAll (tyAll as) (tyAll bs) then equalsAll as bs else some false
  | .object as, .object bs =>
    if Ty.sameFields (tyFields as) (tyFields bs) then equalsFields as bs else some false
  | .list s as, .list t bs => if s.same t then equalsAll as bs else some false
  | .map s as, .map t bs => if s.same t then equalsFields as bs else some false
  | _, _ => some false

def equalsAll : List Value → List Value → Option Bool
  | [], [] => some true
  | a :: as, b :: bs => both (equals a b) (equalsAll as bs)
  | _, _ => some false

def equalsFields : List (String × Value) → List (String × Value) → Option Bool
  | [], [] => some true
  | (m, a) :: as, (n, b) :: bs =>
    if m == n then both (equals a b) (equalsFields as bs) else some false
  | _, _ => some false

end

/-- The elements of a collection with their keys; `none` for a value that is no collection. -/
def elements? : Value → Option (List (Value × Value))
  | .tuple vs => some (indexed 0 vs)
  | .list _ vs => some (indexed 0 vs)
  | .object fields => some (fields.map fun (n, v) => (.string n, v))
  | .map _ entries => some (entries.map fun (n, v) => (.string n, v))
  | _ => none
where
  /-- Items with their numbers, which have the precision of machine words. -/
  indexed (i : Nat) : List Value → List (Value × Value)
    | [] => []
    | v :: vs => (.number (.ofNat i 64), v) :: indexed (i + 1) vs

end Value

end CallLight.Hcl
