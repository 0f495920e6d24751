import CallLight.Config.Hcl.Value

/-!
# Conversion between types

Numbers and truth values turn into strings, and strings back into them if they read as such. A tuple
turns into a list and an object into a map if their parts turn into the type of the elements.
Several types are unified by finding one that all of them turn into.
-/

namespace CallLight.Hcl

namespace Ty

mutual

/-- Whether values of one type may turn into the other. Strings may, even if not all of them do. -/
def convertsTo : Ty → Ty → Bool
  | _, .dynamic => true
  | .dynamic, _ => true
  | .string, .string => true
  | .number, .number => true
  | .bool, .bool => true
  | .number, .string => true
  | .bool, .string => true
  | .string, .number => true
  | .string, .bool => true
  | .tuple as, .tuple bs => allConvert as bs
  | .tuple as, .list b => eachConverts as b
  | .list a, .list b => convertsTo a b
  | .object as, .object bs => fieldsConvert as bs bs.length
  | .object as, .map b => eachFieldConverts as b
  | .map a, .map b => convertsTo a b
  | .map a, .object bs => convertsToEach a bs bs.length
  | _, _ => false

def allConvert : List Ty → List Ty → Bool
  | [], [] => true
  | a :: as, b :: bs => convertsTo a b && allConvert as bs
  | _, _ => false

def eachConverts : List Ty → Ty → Bool
  | [], _ => true
  | a :: as, b => convertsTo a b && eachConverts as b

def eachFieldConverts : List (String × Ty) → Ty → Bool
  | [], _ => true
  | (_, a) :: as, b => convertsTo a b && eachFieldConverts as b

/-- Whether the fields that the other type asks for are there and convert; `n` counts those left. -/
def fieldsConvert : List (String × Ty) → List (String × Ty) → Nat → Bool
  | [], _, n => n == 0
  | (m, a) :: as, bs, n =>
    match bs.find? fun (k, _) => k == m with
    | some (_, b) => convertsTo a b && fieldsConvert as bs (n - 1)
    | none => fieldsConvert as bs n

/-- Whether one type converts to the types of all fields. -/
def convertsToEach : Ty → List (String × Ty) → Nat → Bool
  | _, _, 0 => true
  | _, [], _ => true
  | a, (_, b) :: bs, n + 1 => convertsTo a b && convertsToEach a bs n

end

/-- The order in which types are tried as the common one: strings first, the unknown type last. -/
def rank : Ty → Nat
  | .string => 0
  | .dynamic => 2
  | _ => 1

/-- The first of the types, strings preferred, that all of the types convert to. -/
def preferred (tys : List Ty) : Option Ty :=
  let ordered := tys.filter (·.rank == 0) ++ tys.filter (·.rank == 1) ++ tys.filter (·.rank == 2)
  ordered.find? fun want => tys.all fun t => t.same want || t.convertsTo want

/-- The column of the types at one place of several tuples. -/
def column (rows : List (List Ty)) (i : Nat) : List Ty := rows.filterMap fun row => row[i]?

/-- The types of a field in several objects. -/
def fieldTypes (rows : List (List (String × Ty))) (name : String) : List Ty :=
  rows.filterMap fun row => (row.find? fun (n, _) => n == name).map (·.2)

/-- The item types, if all of the types are tuples. -/
def tupleRows (tys : List Ty) : Option (List (List Ty)) :=
  tys.mapM fun
    | .tuple items => some items
    | _ => none

/-- The fields, if all of the types are objects. -/
def objectRows (tys : List Ty) : Option (List (List (String × Ty))) :=
  tys.mapM fun
    | .object fields => some fields
    | _ => none

/-- Whether objects have the same field names. -/
def sameNames (rows : List (List (String × Ty))) : Bool :=
  match rows with
  | [] => true
  | first :: rest => rest.all fun row => row.map (·.1) == first.map (·.1)

/-- Whether tuples have the same length. -/
def sameLength (rows : List (List Ty)) : Bool :=
  match rows with
  | [] => true
  | first :: rest => rest.all fun row => row.length == first.length

/-- The type all of the types convert to, if there is one. Tuples of one length and objects of the
same names are unified place by place, other tuples become a list and other objects a map. A
collection next to a value of unknown type leaves the result unknown. `fuel` bounds the depth of the
types. -/
def unify : (fuel : Nat) → List Ty → Option Ty
  | 0, _ => none
  | _, [] => none
  | fuel + 1, tys =>
    let known := tys.filter (!·.isDynamic)
    let isTuple (t : Ty) := match t with | .tuple _ => true | _ => false
    let isObject (t : Ty) := match t with | .object _ => true | _ => false
    let isList (t : Ty) := match t with | .list _ => true | _ => false
    let isMap (t : Ty) := match t with | .map _ => true | _ => false
    let open? := known.length != tys.length
    let item (t : Ty) := match t with | .list a => [a] | .map a => [a] | _ => []
    let rowsToList (ts : List Ty) :=
      (unify fuel (ts.flatMap fun | .tuple items => items | _ => [])).map Ty.list
    let rowsToMap (ts : List Ty) :=
      (unify fuel (ts.flatMap fun | .object fields => fields.map (·.2) | _ => [])).map Ty.map
    if known.isEmpty then some .dynamic
    else if known.all isMap then
      if open? then some .dynamic else (unify fuel (tys.flatMap item)).map Ty.map
    else if known.all isList then
      if open? then some .dynamic else (unify fuel (tys.flatMap item)).map Ty.list
    else if known.all isObject then
      if open? then some .dynamic
      else
        match objectRows tys with
        | none => none
        | some rows =>
          if sameNames rows then
            (((rows.headD []).map (·.1)).mapM fun name =>
              (unify fuel (fieldTypes rows name)).map fun t => (name, t)).map Ty.object
          else rowsToMap tys
    else if known.all isTuple then
      if open? then some .dynamic
      else
        match tupleRows tys with
        | none => none
        | some rows =>
          if sameLength rows then
            ((List.range (rows.headD []).length).mapM fun i =>
              unify fuel (column rows i)).map Ty.tuple
          else rowsToList tys
    else
      let mixed :=
        if known.all (fun t => isMap t || isObject t) then
          (rowsToMap (known.filter isObject)).bind fun m =>
            (unify fuel ((m :: known.filter isMap).flatMap item)).map Ty.map
        else if known.all (fun t => isList t || isTuple t) then
          (rowsToList (known.filter isTuple)).bind fun l =>
            (unify fuel ((l :: known.filter isList).flatMap item)).map Ty.list
        else none
      match mixed with
      | some t => some t
      | none => if known.any isObject && known.any isTuple then none else preferred tys

mutual

/-- The depth of a type. -/
def depth : Ty → Nat
  | .tuple items => depthAll items + 1
  | .object fields => depthFields fields + 1
  | .list t => depth t + 1
  | .map t => depth t + 1
  | _ => 1

def depthAll : List Ty → Nat
  | [] => 0
  | t :: ts => max (depth t) (depthAll ts)

def depthFields : List (String × Ty) → Nat
  | [] => 0
  | (_, t) :: ts => max (depth t) (depthFields ts)

end

/-- The type that two types have in common. -/
def unify₂ (a b : Ty) : Option Ty := unify (a.depth + b.depth + 1) [a, b]

end Ty

namespace Value

/-- The truth value a string stands for. -/
def parseBool? : String → Option Bool
  | "true" | "1" => some true
  | "false" | "0" => some false
  | _ => none

mutual

/-- Converts a value to a type that its type converts to. It fails for a string that does not read
as a value of the type. -/
def convertTo (want : Ty) : Value → Option Value
  | .unknown t => some (.unknown (if want.isDynamic then t else want))
  | .null t => some (.null (if want.isDynamic then t else want))
  | .string s =>
    match want with
    | .number => (Number.parse? s).map .number
    | .bool => (parseBool? s).map .bool
    | _ => some (.string s)
  | .number n =>
    match want with
    | .string => some (.string n.render)
    | _ => some (.number n)
  | .bool b =>
    match want with
    | .string => some (.string (if b then "true" else "false"))
    | _ => some (.bool b)
  | .tuple vs =>
    match want with
    | .list .dynamic =>
      (Ty.unify (Ty.depthAll (tyAll vs) + 1) (tyAll vs)).bind fun t =>
        (convertEach t vs).map (.list t)
    | .list t => (convertEach t vs).map (.list t)
    | .tuple ts => (convertAll ts vs).map .tuple
    | _ => some (.tuple vs)
  | .list t vs =>
    match want with
    | .list u => (convertEach u vs).map (.list u)
    | _ => some (.list t vs)
  | .object fields =>
    match want with
    | .map t => (convertEntries t fields).map (.map t)
    | .object ts => (convertFields ts fields).map .object
    | _ => some (.object fields)
  | .map t entries =>
    match want with
    | .map u => (convertEntries u entries).map (.map u)
    | .object ts =>
      if ts.all fun (n, _) => (entries.any fun (m, _) => m == n) then
        (convertFields ts entries).map .object
      else none
    | _ => some (.map t entries)

def convertEach (want : Ty) : List Value → Option (List Value)
  | [] => some []
  | v :: vs => do return (← convertTo want v) :: (← convertEach want vs)

def convertAll : List Ty → List Value → Option (List Value)
  | t :: ts, v :: vs => do return (← convertTo t v) :: (← convertAll ts vs)
  | _, _ => some []

def convertEntries (want : Ty) : List (String × Value) → Option (List (String × Value))
  | [] => some []
  | (n, v) :: rest => do return (n, ← convertTo want v) :: (← convertEntries want rest)

/-- Converts the fields that the type asks for and drops the others. -/
def convertFields (wants : List (String × Ty)) :
    List (String × Value) → Option (List (String × Value))
  | [] => some []
  | (n, v) :: rest =>
    match wants.find? fun (m, _) => m == n with
    | none => convertFields wants rest
    | some (_, t) => do return (n, ← convertTo t v) :: (← convertFields wants rest)

end

/-- Converts a value to a type, if that can be done. -/
def convert (want : Ty) (v : Value) : Option Value :=
  if v.ty.same want then some v
  else if v.ty.convertsTo want then v.convertTo want
  else none

end Value

end CallLight.Hcl
