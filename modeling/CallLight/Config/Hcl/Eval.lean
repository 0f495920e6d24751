import CallLight.Config.Hcl.Convert
import CallLight.Config.Hcl.Syntax

/-!
# Evaluation of HCL

An expression always has a value. If a part of it fails the value is an unknown one, of the type
that could be told, and the result says that something failed. The branch of a condition that is not
taken may fail without harm, but its type still takes part.
-/

namespace CallLight.Hcl

/-- A value, and whether all went well on the way to it. -/
structure Result where
  value : Value
  ok : Bool

namespace Result

def good (v : Value) : Result := ⟨v, true⟩

/-- A failure, with an unknown value of a type. -/
def fault (t : Ty) : Result := ⟨.unknown t, false⟩

/-- A result that is a failure if something before it was. -/
def after (ok : Bool) (r : Result) : Result := ⟨r.value, ok && r.ok⟩

def ofOption (t : Ty) : Option Value → Result
  | some v => good v
  | none => fault t

end Result

/-- What names stand for. -/
structure Scope where
  bindings : List (String × Value)
  /-- The element at hand, inside of a splat. -/
  item : Value

namespace Scope

def lookup? (scope : Scope) (name : String) : Option Value :=
  (scope.bindings.find? fun (n, _) => n == name).map (·.2)

/-- The scope of one turn of a loop. -/
def bind (scope : Scope) (key : Option String) (value : String) (k v : Value) : Scope :=
  let outer := match key with
    | none => scope.bindings
    | some name => (name, k) :: scope.bindings
  { scope with bindings := (value, v) :: outer }

end Scope

namespace Value

/-- An attribute of a value. -/
def member (name : String) (v : Value) : Result :=
  let name := Text.normalize name
  match v with
  | .null _ => .fault .dynamic
  | .object fields => .ofOption .dynamic (field? name fields)
  | .map _ entries => .ofOption .dynamic (field? name entries)
  | .unknown (.object fields) =>
    match fields.find? fun (n, _) => n == name with
    | some (_, t) => .good (.unknown t)
    | none => .fault .dynamic
  | .unknown (.map t) => .good (.unknown t)
  | .unknown .dynamic => .good failed
  | _ => .fault .dynamic

/-- The element of a sequence at an index. -/
def elementAt (items : List Value) (open? : Value) (key : Value) : Result :=
  match key.convert .number with
  | some (.number n) =>
    match n.toIndex? with
    | some i => .ofOption .dynamic items[i]?
    | none => .fault .dynamic
  | some (.unknown _) => .good open?
  | _ => .fault .dynamic

/-- The element of a collection under a key. -/
def index (source key : Value) : Result :=
  if source.isNull || key.isNull then .fault .dynamic
  else if source.ty.isDynamic || key.ty.isDynamic then .good failed
  else
    match source with
    | .tuple vs => elementAt vs failed key
    | .list t vs => elementAt vs (.unknown t) key
    | .map t entries =>
      match key.convert .string with
      | some (.string s) => .ofOption .dynamic (field? (Text.normalize s) entries)
      | some (.unknown _) => .good (.unknown t)
      | _ => .fault .dynamic
    | .object fields =>
      match key.convert .string with
      | some (.string s) => .ofOption .dynamic (field? (Text.normalize s) fields)
      | some (.unknown _) => .good failed
      | _ => .fault .dynamic
    | .unknown (.tuple ts) => elementAt (ts.map .unknown) failed key
    | .unknown (.list t) =>
      if (key.convert .number).isSome then .good (.unknown t) else .fault .dynamic
    | .unknown (.map t) =>
      if (key.convert .string).isSome then .good (.unknown t) else .fault .dynamic
    | .unknown (.object _) => if (key.convert .string).isSome then .good failed else .fault .dynamic
    | _ => .fault .dynamic

end Value

namespace Operator

/-- The type of the operands; `none` if they may have any. -/
def operands : Operator → Option Ty
  | .equal | .notEqual => none
  | .and | .or => some .bool
  | _ => some .number

/-- The type of the result. -/
def result : Operator → Ty
  | .add | .subtract | .multiply | .divide | .remainder => .number
  | _ => .bool

/-- The result for two known values of the right type. -/
def apply (op : Operator) (a b : Value) : Option Value :=
  let compared (f : Ordering → Bool) (m n : Number) := some (Value.bool (f (m.compare n)))
  match op, a, b with
  | .or, .bool p, .bool q => some (.bool (p || q))
  | .and, .bool p, .bool q => some (.bool (p && q))
  | .greater, .number m, .number n => compared (· == .gt) m n
  | .greaterEqual, .number m, .number n => compared (· != .lt) m n
  | .less, .number m, .number n => compared (· == .lt) m n
  | .lessEqual, .number m, .number n => compared (· != .gt) m n
  | .add, .number m, .number n => (m.add n).map .number
  | .subtract, .number m, .number n => (m.sub n).map .number
  | .multiply, .number m, .number n => (m.mul n).map .number
  | .divide, .number m, .number n => (m.div n).map .number
  | .remainder, .number m, .number n => (m.rem n).map .number
  | _, _, _ => none

/-- Whether two values are equal, or the opposite of it. -/
def equality (negated : Bool) (a b : Value) : Result :=
  match a.equals b with
  | some eq => .good (.bool (eq != negated))
  | none => .good (.unknown .bool)

/-- The result for two values of any type. Only equality may be asked of missing values. -/
def run (op : Operator) (left right : Result) : Result :=
  let fault : Result := .fault op.result
  if !left.ok || !right.ok then fault
  else
    match op.operands with
    | none => equality (op == .notEqual) left.value right.value
    | some t =>
      match left.value.convert t, right.value.convert t with
      | some a, some b =>
        if a.isNull || b.isNull then fault
        else if !a.isKnown || !b.isKnown then .good (.unknown op.result)
        else .ofOption op.result (op.apply a b)
      | _, _ => fault

/-- The result of an operator with one operand of a type. -/
def runUnary (t : Ty) (f : Value → Option Value) (r : Result) : Result :=
  match r.value.convert t with
  | some v =>
    if !r.ok || v.isNull then .fault t
    else if v.isKnown then .ofOption t (f v) else .good (.unknown t)
  | none => .fault t

end Operator

/-- Converts the value of the branch that was taken to the type of both. -/
def Result.toBranchType (want : Ty) (r : Result) : Result :=
  if r.value.ty.same want then r
  else if want.isDynamic then ⟨.failed, r.ok⟩
  else
    match r.value.convert want with
    | some v => ⟨v, r.ok⟩
    | none => .fault want

/-- Chooses between two results. -/
def choose (condition onTrue onFalse : Result) : Result :=
  let isPlainNull (v : Value) := match v with | .null .dynamic => true | _ => false
  let want :=
    if isPlainNull onTrue.value then some onFalse.value.ty
    else if isPlainNull onFalse.value then some onTrue.value.ty
    else onTrue.value.ty.unify₂ onFalse.value.ty
  match want with
  | none => .fault .dynamic
  | some want =>
    match condition.value with
    | .null _ => .fault want
    | .unknown _ => ⟨.unknown want, condition.ok⟩
    | v =>
      match v.convert .bool with
      | some (.bool true) => (onTrue.toBranchType want).after condition.ok
      | some (.bool false) => (onFalse.toBranchType want).after condition.ok
      | _ => .fault want

/-- Applies an expression to every element of a value. A value that is no sequence counts as a
sequence of one, and a missing one as empty. -/
def splatOver (source : Result) (each : Value → Result) : Result :=
  let typesOf (ts : List Ty) := Ty.tuple (ts.map fun t => (each (.unknown t)).value.ty)
  let gather (vs : List Value) (whole : List Value → Value) (t : Ty) : Result :=
    let rs := vs.map each
    if rs.all (·.ok) then .good (whole (rs.map (·.value))) else .fault t
  let single (v : Value) : Result := gather [v] .tuple (typesOf [v.ty])
  if !source.ok then .fault .dynamic
  else
    match source.value with
    | .null (.tuple _) | .null (.list _) => .fault .dynamic
    | .null _ => .good (.tuple [])
    | .unknown .dynamic => .good .failed
    | .unknown (.tuple ts) => .good (.unknown (typesOf ts))
    | .unknown (.list t) => .good (.unknown (.list (each (.unknown t)).value.ty))
    | .unknown t => ⟨.unknown (typesOf [t]), (each (.unknown t)).ok⟩
    | .tuple vs => gather vs .tuple (typesOf (Value.tyAll vs))
    | .list t vs =>
      let item := (each (.unknown t)).value.ty
      let itemOf (vs : List Value) := match vs with | [] => item | v :: _ => v.ty
      gather vs (fun vs => .list (itemOf vs) vs) (.list item)
    | v => single v

/-- The elements a loop runs over, or the result of the loop if there is nothing to run over. -/
def loopElements (source : Result) : Except Result (List (Value × Value)) :=
  match source.value with
  | .null _ => .error (.fault .dynamic)
  | .unknown .dynamic => .error ⟨.failed, source.ok⟩
  | .unknown (.tuple _) | .unknown (.object _) | .unknown (.list _) | .unknown (.map _) =>
    .error ⟨.failed, source.ok⟩
  | v =>
    match v.elements? with
    | some elements => .ok elements
    | none => .error (.fault .dynamic)

/-- Whether an element is taken, and whether that is known and went well. -/
structure Verdict where
  taken : Bool
  known : Bool
  ok : Bool

/-- The verdict of a condition. -/
def verdict (r : Result) : Verdict :=
  match r.value.convert .bool with
  | some (.bool b) => ⟨b, true, r.ok⟩
  | some (.unknown _) => ⟨false, false, r.ok⟩
  | _ => ⟨false, false, false⟩

/-- A condition of the wrong kind is found before any element is looked at. -/
def conditionFits (r : Result) : Bool :=
  r.ok && !r.value.isNull && (r.value.convert .bool).isSome

/-- What a loop has come to: its entries in reverse, whether they are known, and whether all went
well. -/
structure Progress (α : Type) where
  entries : List α
  known : Bool
  ok : Bool

/-- Runs a loop that collects values. -/
def runTupleLoop (source : Result) (condition body : Value → Value → Result) : Result :=
  match loopElements source with
  | .error r => r
  | .ok elements =>
    if !conditionFits (condition .failed .failed) then .fault .dynamic
    else
      let done := elements.foldl (fun (p : Progress Value) (k, v) =>
        let c := verdict (condition k v)
        if !c.known then ⟨p.entries, false, p.ok && c.ok⟩
        else if !c.taken then ⟨p.entries, p.known, p.ok && c.ok⟩
        else
          let r := body k v
          ⟨r.value :: p.entries, p.known, p.ok && c.ok && r.ok⟩) ⟨[], true, source.ok⟩
      ⟨if done.known then .tuple done.entries.reverse else .failed, done.ok⟩

/-- Adds a value to the group of its key. -/
def addToGroup (name : String) (v : Value) (groups : List (String × List Value)) :
    List (String × List Value) :=
  match groups.find? fun (n, _) => n == name with
  | some (_, vs) => insertField name (vs ++ [v]) groups
  | none => insertField name [v] groups

/-- Runs a loop that collects entries. Each key may come once, unless the values are grouped. -/
def runObjectLoop (source : Result) (grouped : Bool)
    (condition entryKey body : Value → Value → Result) :
    Result :=
  match loopElements source with
  | .error r => r
  | .ok elements =>
    if !conditionFits (condition .failed .failed) then .fault .dynamic
    else
      let done := elements.foldl (fun (p : Progress (String × Value)) (k, v) =>
        let c := verdict (condition k v)
        if !c.known then ⟨p.entries, false, p.ok && c.ok⟩
        else if !c.taken then ⟨p.entries, p.known, p.ok && c.ok⟩
        else
          let key := entryKey k v
          if key.value.isNull then ⟨p.entries, false, false⟩
          else
            match key.value.convert .string with
            | some (.string name) =>
              let r := body k v
              let twice := !grouped && p.entries.any fun (n, _) => n == name
              ⟨if twice then p.entries else (name, r.value) :: p.entries, p.known,
                p.ok && c.ok && key.ok && r.ok && !twice⟩
            | some _ => ⟨p.entries, false, p.ok && c.ok && key.ok⟩
            | none => ⟨p.entries, false, false⟩) ⟨[], true, source.ok⟩
      let entries := done.entries.reverse
      let fields :=
        if grouped then
          (entries.foldl (fun groups (n, v) => addToGroup n v groups) []).map fun (n, vs) =>
            (n, Value.tuple vs)
        else entries.foldl (fun fields (n, v) => insertField n v fields) []
      ⟨if done.known then .object fields else .failed, done.ok⟩

/-- Puts the values of a template together. -/
def concatenate (parts : List Result) : Result :=
  let texts := parts.map fun r =>
    match r.value with
    | .null _ => none
    | .unknown _ => some none
    | v =>
      match v.convert .string with
      | some (.string s) => some (some s)
      | _ => none
  let ok := parts.all (·.ok) && texts.all (·.isSome)
  if parts.all (·.value.isKnown) then
    ⟨.ofString (String.join (texts.map fun t => (t.bind id).getD "")), ok⟩
  else ⟨.unknown .string, ok⟩

/-- Puts the texts that a loop collected together. -/
def joinTexts (r : Result) : Result :=
  match r.value with
  | .tuple vs => (concatenate (vs.map .good)).after r.ok
  | _ => ⟨.unknown .string, r.ok⟩

/-- What the entries of an object have come to. -/
structure ObjectProgress where
  fields : List (String × Value)
  known : Bool
  ok : Bool

/-- Adds an entry to an object; a later entry of the same name wins. -/
def ObjectProgress.add (p : ObjectProgress) (key value : Result) : ObjectProgress :=
  let ok := p.ok && key.ok && value.ok
  if !key.ok || key.value.isNull then ⟨p.fields, false, false⟩
  else
    match key.value.convert .string with
    | some (.string name) => ⟨insertField (Text.normalize name) value.value p.fields, p.known, ok⟩
    | some _ => ⟨p.fields, false, ok⟩
    | none => ⟨p.fields, false, false⟩

mutual

/-- The value of an expression. -/
def eval (scope : Scope) : Expr → Result
  | .literal v => .good v
  | .variable name => .ofOption .dynamic (scope.lookup? name)
  | .item => .good scope.item
  | .paren e => eval scope e
  | .member source name =>
    let r := eval scope source
    (r.value.member name).after r.ok
  | .index source key =>
    let r := eval scope source
    let k := eval scope key
    (r.value.index k.value).after (r.ok && k.ok)
  | .splat source each =>
    splatOver (eval scope source) fun v => eval { scope with item := v } each
  | .negate e =>
    Operator.runUnary .number (fun | .number n => some (.number n.neg) | _ => none) (eval scope e)
  | .not e => Operator.runUnary .bool (fun | .bool b => some (.bool !b) | _ => none) (eval scope e)
  | .binary op left right => op.run (eval scope left) (eval scope right)
  | .conditional condition onTrue onFalse =>
    choose (eval scope condition) (eval scope onTrue) (eval scope onFalse)
  | .unresolvable => .fault .dynamic
  | .tuple items =>
    let rs := evalAll scope items
    ⟨.tuple (rs.map (·.value)), rs.all (·.ok)⟩
  | .object entries =>
    let p := evalEntries scope ⟨[], true, true⟩ entries
    ⟨if p.known then .object p.fields else .failed, p.ok⟩
  | .forTuple key value source body condition =>
    runTupleLoop (eval scope source) (fun k v => eval (scope.bind key value k v) condition)
      (fun k v => eval (scope.bind key value k v) body)
  | .forObject key value source entryKey body condition grouped =>
    runObjectLoop (eval scope source) grouped (fun k v => eval (scope.bind key value k v) condition)
      (fun k v => eval (scope.bind key value k v) entryKey)
      (fun k v => eval (scope.bind key value k v) body)
  | .template parts => concatenate (evalAll scope parts)
  | .join source => joinTexts (eval scope source)

def evalAll (scope : Scope) : List Expr → List Result
  | [] => []
  | e :: es => eval scope e :: evalAll scope es

def evalEntries (scope : Scope) (p : ObjectProgress) : List Entry → ObjectProgress
  | [] => p
  | .mk key value :: rest => evalEntries scope (p.add (eval scope key) (eval scope value)) rest

end

end CallLight.Hcl
